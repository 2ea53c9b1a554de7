import OpGraph.Document.Basic
import OpGraph.Extender

/-!
# Building a graph from a document

Every layer becomes a node: its recorded dimensions and precisions are decoded, its data become
attribute texts, its strategy is that of its operator type, and its extender may change both. Then
the edges are added.
-/

namespace OpGraph

/-- Why a document describes no graph. -/
inductive BuildError where
  | unknownPrecision (layer : NodeId) (port : PortId) (precision : String)
  | badDims (layer : NodeId) (port : PortId) (error : ShapeError)
  | graph (error : GraphError)
  deriving DecidableEq, Repr

def BuildError.message : BuildError → String
  | unknownPrecision layer port precision =>
    s!"layer {layer}, port {port}: unknown precision '{precision}'"
  | badDims layer port e => s!"layer {layer}, port {port}: {e.message}"
  | graph e => e.message

namespace Document

/-- The recorded shape of a port. -/
def Port.shape (p : Port) (layer : NodeId) : Except BuildError (Option Shape) :=
  match p.dims with
  | none => .ok none
  | some dims =>
    match Shape.ofRecorded dims with
    | .ok s => .ok (some s)
    | .error e => .error (.badDims layer p.id e)

/-- The element type that the precision of a port names, if there is one. -/
def Port.elementType (p : Port) (layer : NodeId) : Except BuildError (Option ElementType) :=
  match p.precision with
  | none => .ok none
  | some name =>
    match ElementType.ofName? name with
    | some t => .ok (some t)
    | none => .error (.unknownPrecision layer p.id name)

/-- The input port of a node; the precision of an input is of no use. -/
def Port.inputPort (p : Port) (layer : NodeId) : Except BuildError InputPort := do
  return ⟨p.id, ← p.shape layer⟩

/-- The output port of a node; its precision is decoded before its dimensions. -/
def Port.outputPort (p : Port) (layer : NodeId) : Except BuildError OutputPort := do
  let elementType ← p.elementType layer
  let recorded ← p.shape layer
  return { id := p.id, elementType, recorded }

/-- The node of a layer before its extender sees it. -/
def Layer.node (l : Layer) : Except BuildError Node := do
  let inputs ← l.inputs.mapM fun p => p.inputPort l.id
  let outputs ← l.outputs.mapM fun p => p.outputPort l.id
  return {
    id := l.id
    name := l.name
    opType := l.opType
    version := l.version
    attributes := l.data.map Datum.render
    inputs, outputs
    strategy := Strategy.ofOpType l.opType }

/-- Add the node of a layer to a graph, as it is after it was extended. -/
def Layer.addTo (extend : Node → Node) (g : Graph) (l : Layer) : Except BuildError Graph := do
  let n ← l.node
  (g.addNode (extend n)).mapError BuildError.graph

def addEdgeTo (g : Graph) (e : Edge) : Except BuildError Graph :=
  (g.addEdge e).mapError BuildError.graph

/-- The graph of a document whose nodes are extended in any way: first all layers, then all edges,
in file order. -/
def buildWith (d : Document) (extend : Node → Node) : Except BuildError Graph := do
  let g ← d.layers.foldlM (Layer.addTo extend) (Graph.empty d.name d.version)
  d.edges.foldlM addEdgeTo g

/-- The graph of a document with the extenders of a registry. -/
def build (d : Document) (registry : Registry) : Except BuildError Graph :=
  d.buildWith registry.extend

end Document

end OpGraph
