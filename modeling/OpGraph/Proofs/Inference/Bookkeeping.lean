import OpGraph.Proofs.Inference.Blame

/-!
# The bookkeeping of a run

A run looks up each number of the order, finds as many shapes as the node has outputs, and stores
them. None of this can fail: the order lists the stored nodes, and every rule gives one shape for
each output. So the only error about the graph itself is a cycle, and a run that succeeds leaves no
output without a shape.
-/

namespace OpGraph

namespace Graph

variable {g : Graph} {options : InferOptions} {err : GraphError}

/-- Visits blame nodes, so an error about the graph is that of the sort. -/
theorem WellFormed.result_graph_error_eq_cycle (hg : g.WellFormed)
    (hrun : (g.inferShapes options).result = .error (.graph err)) :
    HasCycle g.links ∧ ∃ stuck, err = .cycle stuck := by
  have houtcome := runOutcome_inferShapes hg options
  generalize g.inferShapes options = outcome at houtcome hrun
  cases houtcome with
  | @cyclic stuck hcycle =>
    cases hrun
    exact ⟨hcycle, stuck, rfl⟩
  | finished => cases hrun
  | @stopped _ _ _ h _ n _ _ _ _ _ _ hfail =>
    cases hrun
    cases node?_of_shapesOf_error hfail

/-- In a settled graph every output has a shape. -/
theorem Settled.exists_shape {h : Graph} (hsettled : h.Settled options) {id : NodeId} {n : Node}
    (hn : h.node? id = some n) {p : OutputPort} (hp : p ∈ n.outputs) : ∃ s, p.shape = some s := by
  obtain ⟨shapes, -, houtputs⟩ := hsettled id n hn
  obtain ⟨s, -, hs⟩ := exists_mem_of_forall₂ (outputShapes_eq_iff.1 houtputs) p hp
  exact ⟨s, hs⟩

/-- On every graph made by operations and with any options, a run fails with no error about the
graph but a cycle that is there: no number of the order is unknown and no node is given another
number of shapes than it has outputs. If it succeeds, the graph has the nodes it had, and all their
outputs have shapes. For every node, strategy and list of inputs the rule gives one shape for each
output. There is an order unless there is a cycle, and it lists the nodes of the graph, each
once. -/
theorem inferShapes_bookkeeping (hg : g.Reachable) (options : InferOptions) :
    (∀ err, (g.inferShapes options).result = .error (.graph err) →
      HasCycle g.links ∧ ∃ stuck, err = .cycle stuck) ∧
    (∀ report, (g.inferShapes options).result = .ok report →
      (g.inferShapes options).graph.nodeIds = g.nodeIds ∧
      ∀ id n, (g.inferShapes options).graph.node? id = some n →
        ∀ p ∈ n.outputs, ∃ s, p.shape = some s) ∧
    (∀ (n : Node) strategy inputs shapes, n.inferShapes strategy inputs = .ok shapes →
      shapes.length = n.outputs.length) ∧
    ((∃ order, g.topologicalOrder = .ok order) ↔ ¬ HasCycle g.links) ∧
    ∀ order, g.topologicalOrder = .ok order → order.Nodup ∧ order.Perm g.nodeIds := by
  have hwf : g.WellFormed := hg.wellFormed
  refine ⟨fun err hrun => hwf.result_graph_error_eq_cycle hrun, fun report hrun => ?_,
    fun n strategy inputs shapes hrule => Node.length_of_inferShapes hrule,
    hwf.exists_topologicalOrder_iff, fun order hsort => ?_⟩
  · obtain ⟨-, hframe, hsettled, -⟩ := hwf.settled_of_ok hrun
    exact ⟨hframe.nodeIds_eq.symm, fun id n hn p hp => hsettled.exists_shape hn hp⟩
  · have horder : g.IsOrder order := hwf.isOrder_of_topologicalOrder hsort
    exact ⟨horder.nodup, horder.perm_nodeIds⟩

/-- A node with two outputs, one that broadcasts them, and one behind that has no outputs. One
output holds a shape from before. -/
def forked : Graph :=
  (empty "forked" 1).performAll
    [.addNode ⟨6, "x", "Split", none, .empty, [],
        [⟨0, none, some ⟨[.fixed 4, .dynamic]⟩, none⟩,
          ⟨1, none, some ⟨[.fixed 1]⟩, none⟩], .recorded⟩,
      .addNode ⟨2, "y", "Add", none, .empty, [⟨0, none⟩, ⟨1, none⟩], [⟨2, none, none, none⟩],
        .broadcast⟩,
      .addNode ⟨1, "z", "Result", none, .empty, [⟨0, none⟩], [], .identity⟩,
      .addEdge ⟨⟨6, 0⟩, ⟨2, 0⟩⟩, .addEdge ⟨⟨6, 1⟩, ⟨2, 1⟩⟩, .addEdge ⟨⟨2, 2⟩, ⟨1, 0⟩⟩,
      .setOutputShapes 2 [.scalar]]

/-- A run over three nodes, where the numbers descend along the edges. -/
theorem inferShapes_forked_bookkeeping :
    (forked.inferShapes {}).result = .ok ⟨3, 1, 2, 0⟩ ∧
    (forked.inferShapes {}).graph.nodeIds = [1, 2, 6] ∧
    (∀ id n, (forked.inferShapes {}).graph.node? id = some n →
      ∀ p ∈ n.outputs, ∃ s, p.shape = some s) ∧
    forked.topologicalOrder = .ok [6, 2, 1] ∧ [6, 2, 1].Perm forked.nodeIds := by
  have hreachable : forked.Reachable := ⟨_, _, _, rfl⟩
  have hrun : (forked.inferShapes {}).result = .ok ⟨3, 1, 2, 0⟩ := by decide
  have hsort : forked.topologicalOrder = .ok [6, 2, 1] := by decide
  obtain ⟨-, hok, -, -, horder⟩ := inferShapes_bookkeeping hreachable {}
  exact ⟨hrun, (hok _ hrun).1, (hok _ hrun).2, hsort, (horder _ hsort).2⟩

end Graph

end OpGraph
