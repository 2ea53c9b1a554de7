import OpGraph.Dictionary
import OpGraph.ElementType
import OpGraph.Shape.Basic

/-!
# Operator nodes

A node is one operator of a graph: its identity, its attributes, its ports, and the strategy by
which the shapes of its outputs are found. Ports keep the shape that the file recorded for them;
an output port also has a slot for the shape found by inference.
-/

namespace OpGraph

/-- The number that names a node within its graph. -/
abbrev NodeId := UInt64

/-- The number that names a port among the inputs, or among the outputs, of its node. -/
abbrev PortId := UInt32

abbrev Attributes := Dictionary String String

/-- Where the shapes of a node's outputs come from. -/
inductive Strategy where
  -- the shapes recorded in the file
  | recorded
  -- the shape of the first input
  | identity
  -- the shape that all inputs broadcast to
  | broadcast
  -- the shape written in the attribute `shape`
  | fromAttribute
  | unspecified
  deriving DecidableEq, Repr, Inhabited

namespace Strategy

def name : Strategy → String
  | recorded => "from-ir"
  | identity => "identity"
  | broadcast => "broadcast"
  | fromAttribute => "from-attribute"
  | unspecified => "unspecified"

/-- Whether the strategy looks at the shapes of the inputs. -/
def readsInputs : Strategy → Bool
  | identity | broadcast => true
  | _ => false

/-- The strategy of an operator type that no extender has changed. -/
def ofOpType : String → Strategy
  | "Parameter" | "Const" => fromAttribute
  | "Result" | "Relu" | "Sigmoid" | "Tanh" | "Exp" | "Abs" | "Negative" | "Convert" | "Clamp"
  | "Softmax" => identity
  | "Add" | "Subtract" | "Multiply" | "Divide" | "Maximum" | "Minimum" | "Power" => broadcast
  | _ => unspecified

end Strategy

/-- A place where a node takes a tensor in. -/
structure InputPort where
  id : PortId
  -- the shape recorded in the file
  recorded : Option Shape
  deriving DecidableEq, Repr, Inhabited

/-- A place where a node gives a tensor out. -/
structure OutputPort where
  id : PortId
  elementType : Option ElementType
  -- the shape recorded in the file
  recorded : Option Shape
  -- the shape found by inference
  shape : Option Shape := none
  deriving DecidableEq, Repr, Inhabited

/-- An operator with its attributes and ports. -/
structure Node where
  id : NodeId
  name : String
  opType : String
  version : Option String
  attributes : Attributes
  inputs : List InputPort
  outputs : List OutputPort
  strategy : Strategy := .unspecified
  deriving DecidableEq

namespace Node

/-- The value of an attribute, if it is set. -/
def attribute? (n : Node) (key : String) : Option String := n.attributes.get? key

/-- The input port with a number. -/
def input? (n : Node) (port : PortId) : Option InputPort := n.inputs.find? (·.id == port)

/-- The output port with a number. -/
def output? (n : Node) (port : PortId) : Option OutputPort := n.outputs.find? (·.id == port)

/-- The shapes found for the outputs, in port order. -/
def outputShapes (n : Node) : List (Option Shape) := n.outputs.map OutputPort.shape

/-- The node with one shape for each output, if there are as many shapes as outputs. -/
def withShapes? (n : Node) (shapes : List Shape) : Option Node :=
  if shapes.length = n.outputs.length then
    some { n with
      outputs :=
        List.zipWith (fun port shape => { port with shape := some shape }) n.outputs shapes }
  else none

/-- The node without inferred shapes. -/
def withoutShapes (n : Node) : Node :=
  { n with outputs := n.outputs.map fun port => { port with shape := none } }

end Node

end OpGraph
