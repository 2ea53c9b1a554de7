import OpGraph.Inference.Rule

/-!
# Shape inference over a graph

Nodes are visited in topological order. Each visit applies the node's rule to the shapes found for
its producers and stores the result on the node's outputs. The first failing visit ends the run;
what was stored until then stays.

## Main definitions

- `InferOptions`, `InferReport`, `InferOutcome`: what a run is told, counts and leaves
- `Graph.visit`: one node
- `Graph.inferShapes`: a whole run
-/

namespace OpGraph

/-- What a run is told: whether to verify against recorded shapes, and whether to fall back to them
where no strategy is known. -/
structure InferOptions where
  -- use the recorded shapes of nodes whose strategy is not known
  fallbackToRecorded : Bool := false
  verify : Bool := false
  deriving DecidableEq, Repr, Inhabited

/-- What a run counts: the nodes it has visited, and by which strategy they got their shapes. -/
structure InferReport where
  visited : Nat := 0
  fromRecorded : Nat := 0
  computed : Nat := 0
  -- nodes whose recorded shapes were used for want of a strategy
  fallbacks : Nat := 0
  deriving DecidableEq, Repr, Inhabited

/-- What a run leaves: the graph as far as it was filled, and the report or the error. -/
structure InferOutcome where
  -- the graph after the last node that was visited
  graph : Graph
  -- the counts of a run through all nodes, or the error that ended it
  result : Except InferError InferReport

/-- The strategy a node is visited with. -/
def Node.effectiveStrategy (n : Node) (fallback : Bool) : Strategy :=
  if n.strategy = .unspecified ∧ fallback then .recorded else n.strategy

/-- Compare computed shapes with the recorded ones, output by output. -/
def Node.checkOutputs (n : Node) (shapes : List Shape) : Except InferError Unit :=
  (n.outputs.zip shapes).forM fun (port, inferred) =>
    match port.recorded with
    | none => .ok ()
    | some recorded =>
      if inferred.compatible recorded then .ok ()
      else .error (.shapeMismatch n.id port.id inferred recorded)

namespace InferReport

/-- The report after one more node. -/
def count (r : InferReport) (n : Node) (strategy : Strategy) : InferReport where
  visited := r.visited + 1
  fromRecorded := if strategy = .recorded then r.fromRecorded + 1 else r.fromRecorded
  computed := if strategy = .recorded then r.computed else r.computed + 1
  fallbacks := if strategy = n.strategy then r.fallbacks else r.fallbacks + 1

end InferReport

namespace Graph

/-- The shapes that arrive at all inputs of a node, in port order. -/
def gatherInputs (g : Graph) (n : Node) : Except InferError (List Shape) :=
  n.inputs.mapM fun port =>
    match g.arriving? n.id port.id with
    | some s => .ok s
    | none => .error (.missingInput n.id port.id)

/-- Compare arriving shapes with the recorded ones, input by input. Inputs at which nothing arrives
and inputs without a recorded shape are passed over. -/
def checkInputs (g : Graph) (n : Node) : Except InferError Unit :=
  n.inputs.forM fun port =>
    match port.recorded, g.arriving? n.id port.id with
    | some recorded, some incoming =>
      if incoming.compatible recorded then .ok ()
      else .error (.inputShapeMismatch n.id port.id incoming recorded)
    | _, _ => .ok ()

/-- The output shapes of a node in the state of the graph, compared with the recorded ones if that
is asked for: where the recorded shapes are used, by what arrives, and otherwise by what is
computed. -/
def shapesOf (g : Graph) (options : InferOptions) (n : Node) : Except InferError (List Shape) := do
  let strategy := n.effectiveStrategy options.fallbackToRecorded
  let inputs ← if strategy.readsInputs then g.gatherInputs n else pure []
  if options.verify ∧ strategy = .recorded then g.checkInputs n
  let shapes ← n.inferShapes strategy inputs
  if options.verify ∧ strategy ≠ .recorded then n.checkOutputs shapes
  return shapes

/-- Visit one node: find its shapes, store and count them. -/
def visit (g : Graph) (options : InferOptions) (report : InferReport) (id : NodeId) :
    Except InferError (Graph × InferReport) := do
  let some n := g.node? id | throw (.graph (.unknownNode id))
  let shapes ← g.shapesOf options n
  let g' ← (g.setOutputShapes id shapes).mapError InferError.graph
  return (g', report.count n (n.effectiveStrategy options.fallbackToRecorded))

/-- Visit nodes in the order given, up to the first that fails. -/
def visitAll (options : InferOptions) : List NodeId → Graph → InferReport → InferOutcome
  | [], g, report => ⟨g, .ok report⟩
  | id :: rest, g, report =>
    match g.visit options report id with
    | .ok (g', report') => visitAll options rest g' report'
    | .error e => ⟨g, .error e⟩

/-- Infer the shapes of all nodes, producers first. -/
def inferShapes (g : Graph) (options : InferOptions) : InferOutcome :=
  match g.topologicalOrder with
  | .ok order => visitAll options order g {}
  | .error e => ⟨g, .error (.graph e)⟩

end Graph

end OpGraph
