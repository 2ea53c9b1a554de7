import OpGraph.Graph.Order

/-!
# Operator graphs

A graph is a set of nodes, kept in the order of their numbers, and a list of edges, kept in the
order of insertion. Each edge leads from an output port to an input port, and an input port takes at
most one edge. An index from input ports to positions in the list of edges answers which edge feeds
a port.

## Main definitions

- `Graph`, `Graph.addNode`, `Graph.addEdge`: graphs and their construction
- `Graph.producer?`: the edge that feeds an input port, by the index
- `Graph.topologicalOrder`: the nodes, producers first
-/

namespace OpGraph

/-- A port of a node, as the end of an edge. -/
structure Terminal where
  node : NodeId
  -- the port among the node's outputs at the source of an edge, among its inputs at the target
  port : PortId
  deriving DecidableEq, Repr, Inhabited

/-- A connection from an output port to an input port. -/
structure Edge where
  source : Terminal
  target : Terminal
  deriving DecidableEq, Repr, Inhabited

/-- The two sides on which a node has ports. -/
inductive PortSide where
  | input
  | output
  deriving DecidableEq, Repr

def PortSide.name : PortSide → String
  | input => "input"
  | output => "output"

/-- Why a graph cannot be built or ordered. -/
inductive GraphError where
  | duplicateNode (node : NodeId)
  | unknownNode (node : NodeId)
  | unknownPort (node : NodeId) (port : PortId) (side : PortSide)
  | duplicatePort (node : NodeId) (port : PortId) (side : PortSide)
  | inputAlreadyConnected (node : NodeId) (port : PortId)
  | outputCountMismatch (node : NodeId) (expected found : Nat)
  -- the nodes that lie on a cycle or behind one
  | cycle (nodes : List NodeId)
  deriving DecidableEq, Repr

def GraphError.message : GraphError → String
  | duplicateNode n => s!"duplicate node id {n}"
  | unknownNode n => s!"unknown node id {n}"
  | unknownPort n p side => s!"node {n} has no {side.name} port {p}"
  | duplicatePort n p side => s!"node {n} declares {side.name} port {p} more than once"
  | inputAlreadyConnected n p => s!"input port {p} of node {n} is already connected"
  | outputCountMismatch n expected found =>
    s!"node {n} has {expected} output ports but {found} shapes were given"
  | cycle ns =>
    "graph contains a cycle through nodes ["
      ++ String.intercalate ", " (ns.map fun n => s!"NodeId({n})") ++ "]"

/-- Nodes and the edges between their ports. -/
structure Graph where
  name : String
  version : UInt32
  nodes : Dictionary NodeId Node
  edges : List Edge
  -- for every connected input port, the position of its edge
  feeds : List (Terminal × Nat)
  deriving DecidableEq

namespace Graph

def empty (name : String) (version : UInt32) : Graph := ⟨name, version, .empty, [], []⟩

instance : Inhabited Graph := ⟨empty "" 0⟩

/-- The first element of a list that occurs before itself, in the list or among `seen`. -/
def firstRepeat? (seen : List PortId) : List PortId → Option PortId
  | [] => none
  | p :: ports => if p ∈ seen then some p else firstRepeat? (p :: seen) ports

/-- Refuse ports of which two have the same number. -/
def checkPorts (node : NodeId) (side : PortSide) (ports : List PortId) : Except GraphError Unit :=
  match firstRepeat? [] ports with
  | some p => .error (.duplicatePort node p side)
  | none => .ok ()

def size (g : Graph) : Nat := g.nodes.size

def node? (g : Graph) (id : NodeId) : Option Node := g.nodes.get? id

/-- The numbers of the nodes, ascending. -/
def nodeIds (g : Graph) : List NodeId := g.nodes.keys

/-- The nodes of one operator type, in ascending order of their numbers. -/
def nodesOfType (g : Graph) (opType : String) : List Node :=
  g.nodes.values.filter fun n => n.opType == opType

/-- Add a node whose number is new and whose ports are distinct. -/
def addNode (g : Graph) (n : Node) : Except GraphError Graph := do
  if g.nodes.contains n.id then throw (.duplicateNode n.id)
  checkPorts n.id .input (n.inputs.map InputPort.id)
  checkPorts n.id .output (n.outputs.map OutputPort.id)
  return { g with nodes := g.nodes.set n.id n }

/-- The edge that feeds an input port. -/
def producer? (g : Graph) (node : NodeId) (port : PortId) : Option Edge :=
  (g.feeds.lookup ⟨node, port⟩).bind fun i => g.edges[i]?

/-- Add an edge between existing ports, into an input port that is not connected yet. -/
def addEdge (g : Graph) (e : Edge) : Except GraphError Graph := do
  let some source := g.node? e.source.node | throw (.unknownNode e.source.node)
  if (source.output? e.source.port).isNone then
    throw (.unknownPort e.source.node e.source.port .output)
  let some target := g.node? e.target.node | throw (.unknownNode e.target.node)
  if (target.input? e.target.port).isNone then
    throw (.unknownPort e.target.node e.target.port .input)
  if (g.feeds.lookup e.target).isSome then
    throw (.inputAlreadyConnected e.target.node e.target.port)
  return { g with
    edges := g.edges ++ [e]
    feeds := g.feeds ++ [(e.target, g.edges.length)] }

/-- The edges that enter a node, in the order of insertion. -/
def inEdges (g : Graph) (id : NodeId) : List Edge := g.edges.filter fun e => e.target.node == id

/-- The edges that leave a node, in the order of insertion. -/
def outEdges (g : Graph) (id : NodeId) : List Edge := g.edges.filter fun e => e.source.node == id

/-- The nodes with producers before consumers and the smallest ready number first. -/
def topologicalOrder (g : Graph) : Except GraphError (List NodeId) :=
  (topologicalSort g.nodeIds (g.edges.map fun e => (e.source.node, e.target.node))).mapError .cycle

/-- Give every output of a stored node a shape. -/
def setOutputShapes (g : Graph) (id : NodeId) (shapes : List Shape) : Except GraphError Graph := do
  let some n := g.node? id | throw (.unknownNode id)
  let some n' := n.withShapes? shapes
    | throw (.outputCountMismatch n.id n.outputs.length shapes.length)
  return { g with nodes := g.nodes.set id n' }

/-- Forget the inferred shapes of a stored node. -/
def clearOutputShapes (g : Graph) (id : NodeId) : Except GraphError Graph := do
  let some n := g.node? id | throw (.unknownNode id)
  return { g with nodes := g.nodes.set id n.withoutShapes }

/-- The inferred shape at an output port. -/
def shapeAt? (g : Graph) (t : Terminal) : Option Shape := do
  let n ← g.node? t.node
  let port ← n.output? t.port
  port.shape

/-- The inferred shape that reaches an input port. -/
def arriving? (g : Graph) (node : NodeId) (port : PortId) : Option Shape := do
  let e ← g.producer? node port
  g.shapeAt? e.source

end Graph

/-! ### The table of a graph -/

/-- A text with blanks behind it, up to a width in characters. -/
def padRight (width : Nat) (text : String) : String :=
  text ++ String.ofList (List.replicate (width - text.length) ' ')

/-- A text with blanks before it, up to a width in characters. -/
def padLeft (width : Nat) (text : String) : String :=
  String.ofList (List.replicate (width - text.length) ' ') ++ text

/-- The text of an inferred shape, with a dash for none. -/
def shapeCell : Option Shape → String
  | some s => s.toString
  | none => "-"

/-- The line of a node: number, operator type, name and strategy in columns, then the inferred
shapes of the outputs. -/
def Node.row (n : Node) : String :=
  padLeft 4 (Nat.repr n.id.toNat) ++ "  " ++ padRight 14 n.opType ++ " "
    ++ padRight 16 n.name ++ " " ++ padRight 14 n.strategy.name ++ " "
    ++ String.intercalate " " (n.outputShapes.map shapeCell) ++ "\n"

/-- The table of a graph: a header with its name and format version, and a line for each node in
ascending order of numbers. -/
def Graph.render (g : Graph) : String :=
  g.name ++ " (IR v" ++ Nat.repr g.version.toNat ++ ")\n"
    ++ String.join (g.nodes.values.map Node.row)

end OpGraph
