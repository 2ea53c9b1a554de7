import OpGraph.Graph.Basic
import OpGraph.Shape.Broadcast

/-!
# The shape rule of one node

What a node's strategy makes of the shapes that arrive at its inputs, without regard to the rest of
the graph.
-/

namespace OpGraph

/-- What is wrong with an attribute. -/
inductive AttributeFault where
  | missing
  | notAShape (error : ShapeError)
  deriving DecidableEq, Repr

def AttributeFault.message : AttributeFault → String
  | missing => "is missing"
  | notAShape e => s!"is not a shape: {e.message}"

/-- Why shapes cannot be inferred. -/
inductive InferError where
  | missingRecorded (node : NodeId) (port : PortId)
  | missingInput (node : NodeId) (port : PortId)
  | noStrategy (node : NodeId) (opType : String)
  -- an input does not broadcast with the inputs before it
  | incompatibleBroadcast (node : NodeId) (left right : Shape)
  | badAttribute (node : NodeId) (key : String) (fault : AttributeFault)
  -- a computed shape contradicts the recorded one
  | shapeMismatch (node : NodeId) (port : PortId) (inferred recorded : Shape)
  -- an arriving shape contradicts the recorded one
  | inputShapeMismatch (node : NodeId) (port : PortId) (incoming recorded : Shape)
  | graph (error : GraphError)
  deriving DecidableEq, Repr

def InferError.message : InferError → String
  | missingRecorded n p => s!"node {n}: output port {p} has no shape stored in the IR"
  | missingInput n p => s!"node {n}: input port {p} is not connected or its producer has no shape"
  | noStrategy n opType => s!"node {n} ({opType}) has no shape inference strategy"
  | incompatibleBroadcast n left right => s!"node {n}: cannot broadcast {left} with {right}"
  | badAttribute n key fault => s!"node {n}: attribute '{key}' {fault.message}"
  | shapeMismatch n p inferred recorded =>
    s!"node {n}: inferred {inferred} on port {p} but the IR stores {recorded}"
  | inputShapeMismatch n p incoming recorded =>
    s!"node {n}: input port {p} receives {incoming} but the IR recorded {recorded}"
  | graph e => e.message

/-- The broadcast of a shape with further shapes from left to right, or the two shapes that do not
broadcast: what the shapes before have led to, and the first that does not fit. -/
def Shape.broadcastAll : Shape → List Shape → Except (Shape × Shape) Shape
  | acc, [] => .ok acc
  | acc, s :: rest =>
    match acc.broadcast? s with
    | some joined => broadcastAll joined rest
    | none => .error (acc, s)

namespace Node

/-- The recorded shapes of all outputs; the first output without one is the error. -/
def recordedShapes (n : Node) : Except InferError (List Shape) :=
  n.outputs.mapM fun port =>
    match port.recorded with
    | some s => .ok s
    | none => .error (.missingRecorded n.id port.id)

def onAllOutputs (n : Node) (s : Shape) : List Shape := List.replicate n.outputs.length s

/-- The error of a node that needs an input and is given none: it blames the first input port. -/
def lacksInput (n : Node) : InferError :=
  .missingInput n.id ((n.inputs.head?.map InputPort.id).getD 0)

/-- The shape of the first input, for every output. -/
def identityShapes (n : Node) : List Shape → Except InferError (List Shape)
  | [] => .error n.lacksInput
  | first :: _ => .ok (n.onAllOutputs first)

/-- The shape all inputs broadcast to, for every output. -/
def broadcastShapes (n : Node) : List Shape → Except InferError (List Shape)
  | [] => .error n.lacksInput
  | first :: rest =>
    match first.broadcastAll rest with
    | .ok s => .ok (n.onAllOutputs s)
    | .error (left, right) => .error (.incompatibleBroadcast n.id left right)

/-- The shape written in the attribute `shape`, for every output. -/
def attributeShapes (n : Node) : Except InferError (List Shape) :=
  match n.attribute? "shape" with
  | none => .error (.badAttribute n.id "shape" .missing)
  | some text =>
    match Shape.parse text with
    | .ok s => .ok (n.onAllOutputs s)
    | .error e => .error (.badAttribute n.id "shape" (.notAShape e))

/-- The output shapes of a node under a strategy, given the shapes of its inputs. -/
def inferShapes (n : Node) (strategy : Strategy) (inputs : List Shape) :
    Except InferError (List Shape) :=
  match strategy with
  | .recorded => n.recordedShapes
  | .identity => n.identityShapes inputs
  | .broadcast => n.broadcastShapes inputs
  | .fromAttribute => n.attributeShapes
  | .unspecified => .error (.noStrategy n.id n.opType)

end Node

end OpGraph
