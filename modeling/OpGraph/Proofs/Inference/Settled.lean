import OpGraph.Proofs.Inference.Progress

/-!
# Settled graphs

A graph is settled if every node holds the shapes that a visit would find for it as the graph
stands. On a graph without a cycle there is at most one way to settle it, and that is where a run
that succeeds ends: a run has a report exactly if some graph of the frame is settled, and it leaves
this graph. So what is to be known of successful runs can be read off the graph they leave.
-/

namespace OpGraph

namespace Graph

variable {g h : Graph} {options : InferOptions} {report : InferReport} {order : List NodeId}

/-- Every node holds the shapes that a visit would find for it. -/
def Settled (h : Graph) (options : InferOptions) : Prop :=
  ∀ id n, h.node? id = some n →
    ∃ shapes, h.shapesOf options n = .ok shapes ∧ n.outputShapes = shapes.map some

theorem IsOrder.perm_nodeIds (horder : g.IsOrder order) : order.Perm g.nodeIds := by
  refine (List.perm_ext_iff_of_nodup horder.nodup (Dictionary.nodup_keys _)).2 fun id => ?_
  rw [horder.mem_iff, ← mem_nodeIds_iff]
  rfl

theorem Settled.exists_shapeAt? (hh : h.WellFormed) (hsettled : h.Settled options) {t : Terminal}
    (ht : h.IsOutput t) : ∃ s, h.shapeAt? t = some s := by
  obtain ⟨n, hn, -⟩ := id ht
  obtain ⟨shapes, -, houtputs⟩ := hsettled t.node n hn
  exact hh.exists_shapeAt? ht hn houtputs

/-- A run that succeeds leaves a settled graph and counts all its nodes. -/
theorem WellFormed.settled_of_ok (hg : g.WellFormed)
    (hrun : (g.inferShapes options).result = .ok report) : ¬ HasCycle g.links ∧
      SameFrame g (g.inferShapes options).graph ∧ (g.inferShapes options).graph.Settled options ∧
      report = .ofStrategies options.fallbackToRecorded (g.strategiesOf g.nodeIds) := by
  obtain ⟨hacyclic, order, horder, hprogress⟩ := exists_progress_of_ok hg hrun
  refine ⟨hacyclic, hprogress.sameFrame, fun id n hn => hprogress.exists_shapesOf horder hn, ?_⟩
  rw [hprogress.report_eq]
  exact InferReport.ofStrategies_perm (horder.perm_nodeIds.filterMap _)

/-- A visit in a run finds the shapes that a settled graph of the frame holds, if it finds these at
the ports that feed the node. -/
theorem Settled.exists_shapesOf {k : Graph} {n : Node} (hk : k.WellFormed) (hkh : SameFrame k h)
    (hsettled : h.Settled options) (hn : k.node? n.id = some n)
    (hfed : ∀ e ∈ k.edges, e.target.node = n.id → k.shapeAt? e.source = h.shapeAt? e.source) :
    ∃ shapes, k.shapesOf options n = .ok shapes ∧
      List.Forall₂ (fun p s => h.shapeAt? ⟨n.id, p.id⟩ = some s) n.outputs shapes := by
  obtain ⟨m, hm, hframe⟩ := hkh.exists_node? hn
  obtain ⟨shapes, hshapes, houtputs⟩ := hsettled n.id m hm
  refine ⟨shapes, (shapesOf_congr hk hkh hframe.symm hfed).trans hshapes, ?_⟩
  exact (hk.of_sameFrame hkh).forall₂_shapeAt?_of_frame hm hframe.symm houtputs

/-- To a settled graph with the same frame a run leads back, whatever shapes it starts with. -/
theorem WellFormed.inferShapes_of_settled (hg : g.WellFormed) (hacyclic : ¬ HasCycle g.links)
    (hgh : SameFrame g h) (hsettled : h.Settled options) :
    ∃ report, g.inferShapes options = ⟨h, .ok report⟩ := by
  have hvisit : ∀ k n, SameFrame g k → k.node? n.id = some n →
      (∀ e ∈ g.edges, e.target.node = n.id →
        ∃ s, k.shapeAt? e.source = some s ∧ h.shapeAt? e.source = some s) →
      ∃ shapes, k.shapesOf options n = .ok shapes ∧
        List.Forall₂ (fun p s => h.shapeAt? ⟨n.id, p.id⟩ = some s) n.outputs shapes := by
    intro k n hgk hn hfed
    refine hsettled.exists_shapesOf (hg.of_sameFrame hgk) (hgk.symm.trans hgh) hn
      fun e he htarget => ?_
    obtain ⟨s, hs, hs'⟩ := hfed e (hgk.edges_eq ▸ he) htarget
    rw [hs, hs']
  obtain ⟨report, hrun, hshape⟩ :=
    exists_report_of_forall_visit (P := fun t s => h.shapeAt? t = some s) hg hacyclic hvisit
  have hframe : SameFrame g (g.inferShapes options).graph := sameFrame_inferShapes g options
  refine ⟨report, InferOutcome.ext ?_ hrun⟩
  refine (hg.of_sameFrame hframe).eq_of_sameFrame (hg.of_sameFrame hgh) (hframe.symm.trans hgh)
    fun t ht => ?_
  obtain ⟨s, hs, hs'⟩ := hshape t ((hframe.isOutput_iff t).2 ht)
  rw [hs, hs']

/-- A run succeeds and leaves a graph exactly if there is no cycle and this graph is of the same
frame and settled. It then reports the counts of the strategies of all nodes. -/
theorem WellFormed.inferShapes_eq_ok_iff (hg : g.WellFormed) :
    g.inferShapes options = ⟨h, .ok report⟩ ↔
      ¬ HasCycle g.links ∧ SameFrame g h ∧ h.Settled options ∧
        report = .ofStrategies options.fallbackToRecorded (g.strategiesOf g.nodeIds) := by
  constructor
  · intro hrun
    have hsettled := hg.settled_of_ok (congrArg InferOutcome.result hrun)
    rwa [hrun] at hsettled
  · rintro ⟨hacyclic, hgh, hsettled, rfl⟩
    obtain ⟨report, hrun⟩ := hg.inferShapes_of_settled hacyclic hgh hsettled
    obtain ⟨-, -, -, rfl⟩ := hg.settled_of_ok (congrArg InferOutcome.result hrun)
    exact hrun

end Graph

end OpGraph
