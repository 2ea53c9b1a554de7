import OpGraph.Proofs.Graph.Restriction
import OpGraph.Proofs.Inference.Progress

/-!
# What a failing run leaves

A run fails before its first visit, because the graph has a cycle, or at the first node for which no
shapes are found. In the second case the nodes before that one have been visited, and they hold what
a run on them alone would give them; the node and all behind it are left as they were.
-/

namespace OpGraph

namespace Graph

variable {g g₀ h : Graph} {options : InferOptions} {report report' : InferReport}
  {before after order done : List NodeId} {id : NodeId} {err : InferError}

section Stop

/-- A run whose first part succeeds goes on where that part has stopped. -/
theorem visitAll_append_of_ok (hrun : visitAll options before g report = ⟨h, .ok report'⟩)
    (rest : List NodeId) :
    visitAll options (before ++ rest) g report = visitAll options rest h report' := by
  induction before generalizing g report with
  | nil =>
    simp only [visitAll, InferOutcome.mk.injEq, Except.ok.injEq] at hrun
    obtain ⟨rfl, rfl⟩ := hrun
    rfl
  | cons v before ih =>
    rw [visitAll] at hrun
    rw [List.cons_append, visitAll]
    split at hrun
    next g' r hvisit => simpa only [hvisit] using ih hrun
    · simp at hrun

/-- A failing sequence of visits fails at one of them, after all visits before it have succeeded. -/
theorem exists_visit_of_visitAll_error
    (hrun : (visitAll options order g report).result = .error err) :
    ∃ before id after h report', order = before ++ id :: after ∧
      visitAll options before g report = ⟨h, .ok report'⟩ ∧
      h.visit options report' id = .error err := by
  induction order generalizing g report with
  | nil => cases hrun
  | cons v order ih =>
    rw [visitAll] at hrun
    split at hrun
    next g' r hvisit =>
      obtain ⟨before, id, after, h, report', rfl, hbefore, hfail⟩ := ih hrun
      refine ⟨v :: before, id, after, h, report', rfl, ?_, hfail⟩
      rw [visitAll]
      simpa only [hvisit] using hbefore
    next e hvisit =>
      obtain rfl := Except.error.inj hrun
      exact ⟨[], v, order, g, report, rfl, rfl, hvisit⟩

/-- The order of the graph has `id` behind `before`. A run visits the nodes `before`, and then the
visit to `id` fails. -/
structure StopsAt (g : Graph) (options : InferOptions) (before : List NodeId) (id : NodeId)
    (after : List NodeId) (err : InferError) : Prop where
  order_eq : g.topologicalOrder = .ok (before ++ id :: after)
  exists_visit : ∃ h report, visitAll options before g {} = ⟨h, .ok report⟩ ∧
    h.visit options report id = .error err

/-- A run on a graph without a cycle fails at a node, with a part of the order before and a part
behind it. -/
theorem exists_stopsAt_of_error (hg : g.WellFormed) (hacyclic : ¬ HasCycle g.links)
    (hrun : (g.inferShapes options).result = .error err) :
    ∃ before id after, g.StopsAt options before id after err := by
  obtain ⟨order, hsort⟩ := hg.exists_topologicalOrder_iff.2 hacyclic
  rw [inferShapes_of_ok hsort] at hrun
  obtain ⟨before, id, after, h, report, rfl, hbefore, hfail⟩ := exists_visit_of_visitAll_error hrun
  exact ⟨before, id, after, hsort, h, report, hbefore, hfail⟩

/-- Where a run stops, it ends: with the error of that visit and the graph left by those before. -/
theorem StopsAt.inferShapes_eq (hstop : g.StopsAt options before id after err) :
    ∃ h report, visitAll options before g {} = ⟨h, .ok report⟩ ∧
      g.inferShapes options = ⟨h, .error err⟩ := by
  obtain ⟨hsort, h, report, hbefore, hfail⟩ := hstop
  refine ⟨h, report, hbefore, ?_⟩
  rw [inferShapes_of_ok hsort, visitAll_append_of_ok hbefore, visitAll]
  simp only [hfail]

/-- Visits of a run that succeed bring it forward to the nodes behind. -/
theorem WellFormed.progress_of_visitAll (hg : g.WellFormed) (horder : g.IsOrder (before ++ after))
    (hrun : visitAll options before g {} = ⟨h, .ok report⟩) :
    Progress options g before h report := by
  have horder' : g.IsOrder ([] ++ (before ++ after)) := horder
  rcases (progress_nil options g).visitAll hg horder' with
    ⟨h', report', hvisited, hprogress⟩ | ⟨_, _, _, _, _, _, _, _, hvisited, -⟩
  · rw [hrun, InferOutcome.mk.injEq, Except.ok.injEq] at hvisited
    obtain ⟨rfl, rfl⟩ := hvisited
    exact hprogress
  · rw [hrun, InferOutcome.mk.injEq] at hvisited
    cases hvisited.2

/-- Up to the node where it fails a run made its usual progress. -/
theorem StopsAt.exists_progress (hg : g.WellFormed)
    (hstop : g.StopsAt options before id after err) :
    ∃ report, Progress options g before (g.inferShapes options).graph report := by
  obtain ⟨h, report, hbefore, hrun⟩ := hstop.inferShapes_eq
  rw [hrun]
  exact ⟨report, hg.progress_of_visitAll (hg.isOrder_of_topologicalOrder hstop.order_eq) hbefore⟩

end Stop

section Restriction

/-- A visit in the run on the visited nodes alone finds the shapes that they hold. -/
theorem Progress.exists_shapesOf_restrictTo (hg : g₀.WellFormed) {rest : List NodeId}
    (horder : g₀.IsOrder (done ++ rest)) (hprogress : Progress options g₀ done g report) {n : Node}
    (hh : SameFrame (g₀.restrictTo done) h) (hn : h.node? n.id = some n)
    (hfed : ∀ e ∈ (g₀.restrictTo done).edges, e.target.node = n.id →
      h.shapeAt? e.source = g.shapeAt? e.source) :
    ∃ shapes, h.shapesOf options n = .ok shapes ∧
      List.Forall₂ (fun p s => g.shapeAt? ⟨n.id, p.id⟩ = some s) n.outputs shapes := by
  have hclosed : ∀ e ∈ g₀.edges, e.target.node ∈ done → e.source.node ∈ done :=
    fun e he => horder.source_mem_of_target_mem he
  obtain ⟨n₀, hn₀, hframe₀⟩ := hh.symm.exists_node? hn
  obtain ⟨hdone, hstored⟩ := node?_restrictTo_eq_some_iff.1 hn₀
  obtain ⟨m, shapes, hm, hshapes, houtputs⟩ := hprogress.settled n.id hdone
  obtain ⟨m', hm', hframe'⟩ := hprogress.sameFrame.exists_node? hstored
  obtain rfl : m = m' := Option.some.inj (hm.symm.trans hm')
  have hnm : n.withoutShapes = m.withoutShapes := hframe₀.symm.trans hframe'.symm
  -- the edges into a visited node are those of the whole graph, and their sources agree
  have harriving : ∀ p ∈ n.inputs, h.arriving? n.id p.id = g.arriving? n.id p.id := by
    intro p _
    have hproducer : h.producer? n.id p.id = g.producer? n.id p.id := by
      rw [← hh.producer?_eq, ← hprogress.sameFrame.producer?_eq,
        hg.producer?_restrictTo hclosed hdone]
    rw [arriving?, arriving?, hproducer]
    cases he : g.producer? n.id p.id with
    | none => rfl
    | some e =>
      have hk := (hg.restrictTo done).of_sameFrame hh
      obtain ⟨hmem, htarget⟩ := hk.producer?_eq_some_iff.1 (hproducer.trans he)
      exact hfed e (hh.edges_eq ▸ hmem) (by rw [htarget])
  refine ⟨shapes, (shapesOf_eq_of_arriving? hnm harriving).trans hshapes, ?_⟩
  exact (hg.of_sameFrame hprogress.sameFrame).forall₂_shapeAt?_of_frame hm hnm houtputs

/-- After some visits of a run, the visited nodes are as a run on the part of the graph that they
make up would leave them, and that run succeeds. -/
theorem Progress.exists_report_restrictTo (hg : g₀.WellFormed) (hacyclic : ¬ HasCycle g₀.links)
    {rest : List NodeId} (horder : g₀.IsOrder (done ++ rest))
    (hprogress : Progress options g₀ done g report) :
    ∃ report', ((g₀.restrictTo done).inferShapes options).result = .ok report' ∧
      ∀ v ∈ done, ((g₀.restrictTo done).inferShapes options).graph.node? v = g.node? v := by
  have hwf : g.WellFormed := hg.of_sameFrame hprogress.sameFrame
  have hpart : (g₀.restrictTo done).WellFormed := hg.restrictTo done
  -- a run on the part finds at each node what the whole run has stored there
  have hvisit : ∀ h n, SameFrame (g₀.restrictTo done) h → h.node? n.id = some n →
      (∀ e ∈ (g₀.restrictTo done).edges, e.target.node = n.id →
        ∃ s, h.shapeAt? e.source = some s ∧ g.shapeAt? e.source = some s) →
      ∃ shapes, h.shapesOf options n = .ok shapes ∧
        List.Forall₂ (fun p s => g.shapeAt? ⟨n.id, p.id⟩ = some s) n.outputs shapes := by
    intro h n hh hn hfed
    refine hprogress.exists_shapesOf_restrictTo hg horder hh hn fun e he htarget => ?_
    obtain ⟨s, hs, hs'⟩ := hfed e he htarget
    rw [hs, hs']
  obtain ⟨report', hrun, hshape⟩ := exists_report_of_forall_visit
    (P := fun t s => g.shapeAt? t = some s) hpart (not_hasCycle_restrictTo hacyclic done) hvisit
  refine ⟨report', hrun, fun v hv => ?_⟩
  have hframe : SameFrame (g₀.restrictTo done) ((g₀.restrictTo done).inferShapes options).graph :=
    sameFrame_inferShapes _ _
  generalize ((g₀.restrictTo done).inferShapes options).graph = k at hshape hframe
  have hk : k.WellFormed := hpart.of_sameFrame hframe
  obtain ⟨n₀, hn₀⟩ := (horder.mem_iff v).1 (List.mem_append_left rest hv)
  obtain ⟨n, hn, hnframe⟩ := hprogress.sameFrame.exists_node? hn₀
  have hv₀ : (g₀.restrictTo done).node? v = some n₀ := node?_restrictTo_eq_some_iff.2 ⟨hv, hn₀⟩
  obtain ⟨m, hm, hmframe⟩ := hframe.exists_node? hv₀
  have hmn : m.withoutShapes = n.withoutShapes := hmframe.trans hnframe.symm
  have hports : ∀ p ∈ m.outputs, k.shapeAt? ⟨v, p.id⟩ = g.shapeAt? ⟨v, p.id⟩ := by
    intro p hp
    have houtput : (g₀.restrictTo done).IsOutput ⟨v, p.id⟩ :=
      (hframe.isOutput_iff _).2 ⟨m, hm, p, hp, rfl⟩
    obtain ⟨s, hs, hs'⟩ := hshape ⟨v, p.id⟩ houtput
    rw [hs, hs']
  rw [hm, hn, hk.eq_of_shapeAt? hwf hm hn hmn hports]

end Restriction

/-- On every graph made by operations, a run changes nothing but inferred shapes, whether it
succeeds or fails, and nothing at all if the graph has a cycle. If it fails on a graph without a
cycle, it stops at a node of the order. This node and all behind it are as they were, and the nodes
before it hold the shapes that their rules give them from their producers. These are the shapes that
a run on the part of the graph before that node gives them. -/
theorem inferShapes_leaves (hg : g.Reachable) (options : InferOptions) :
    SameFrame g (g.inferShapes options).graph ∧
    (∀ node port, (g.inferShapes options).graph.producer? node port = g.producer? node port) ∧
    (HasCycle g.links → (g.inferShapes options).graph = g) ∧
    (∀ err, ¬ HasCycle g.links → (g.inferShapes options).result = .error err →
      ∃ before id after, g.StopsAt options before id after err) ∧
    ∀ before id after err, g.StopsAt options before id after err →
      (∀ v ∈ id :: after, (g.inferShapes options).graph.node? v = g.node? v) ∧
      (∀ v ∈ before, ∃ n shapes, (g.inferShapes options).graph.node? v = some n ∧
        (g.inferShapes options).graph.shapesOf options n = .ok shapes ∧
        n.outputShapes = shapes.map some) ∧
      ∃ report, ((g.restrictTo before).inferShapes options).result = .ok report ∧
        ∀ v ∈ before, (g.inferShapes options).graph.node? v =
          ((g.restrictTo before).inferShapes options).graph.node? v := by
  have hwf : g.WellFormed := hg.wellFormed
  have hframe : SameFrame g (g.inferShapes options).graph := sameFrame_inferShapes g options
  refine ⟨hframe, ?_, ?_, ?_, ?_⟩
  · intro node port
    rw [hframe.producer?_eq]
  · intro hcycle
    rcases hwf.topologicalOrder_cases with ⟨hacyclic, -⟩ | ⟨-, stuck, hsort⟩
    · exact absurd hcycle hacyclic
    · rw [inferShapes_of_error hsort]
  · intro err hacyclic hrun
    exact exists_stopsAt_of_error hwf hacyclic hrun
  · intro before id after err hstop
    have horder : g.IsOrder (before ++ id :: after) :=
      hwf.isOrder_of_topologicalOrder hstop.order_eq
    have hacyclic : ¬ HasCycle g.links :=
      hwf.exists_topologicalOrder_iff.1 ⟨_, hstop.order_eq⟩
    obtain ⟨report, hprogress⟩ := hstop.exists_progress hwf
    refine ⟨?_, hprogress.settled, ?_⟩
    · intro v hv
      refine hprogress.untouched v fun hbefore => ?_
      exact (List.nodup_append.1 horder.nodup).2.2 v hbefore v hv rfl
    · obtain ⟨report', hrun, hsame⟩ := hprogress.exists_report_restrictTo hwf hacyclic horder
      exact ⟨report', hrun, fun v hv => (hsame v hv).symm⟩

/-- A chain of three nodes of which the second has no strategy; the last two hold shapes from
before. -/
def interrupted : Graph :=
  (empty "interrupted" 1).performAll
    [.addNode ⟨5, "x", "Parameter", none, .empty, [],
        [⟨0, none, some ⟨[.dynamic]⟩, none⟩], .recorded⟩,
      .addNode ⟨3, "y", "TopK", none, .empty, [⟨0, none⟩], [⟨1, none, none, none⟩], .unspecified⟩,
      .addNode ⟨8, "z", "Relu", none, .empty, [⟨0, none⟩], [⟨1, none, none, none⟩], .identity⟩,
      .addEdge ⟨⟨5, 0⟩, ⟨3, 0⟩⟩, .addEdge ⟨⟨3, 1⟩, ⟨8, 0⟩⟩,
      .setOutputShapes 3 [⟨[.fixed 7]⟩], .setOutputShapes 8 [.scalar]]

/-- A run that fails at the second of three nodes leaves the other two as they were, and what it has
written is what a run on the first alone would write. -/
theorem inferShapes_interrupted_leaves :
    interrupted.StopsAt {} [5] 3 [8] (.noStrategy 3 "TopK") ∧
    (∀ v ∈ [3, 8], (interrupted.inferShapes {}).graph.node? v = interrupted.node? v) ∧
    ∃ report, ((interrupted.restrictTo [5]).inferShapes {}).result = .ok report ∧
      ∀ v ∈ [5], (interrupted.inferShapes {}).graph.node? v =
        ((interrupted.restrictTo [5]).inferShapes {}).graph.node? v := by
  have hreachable : interrupted.Reachable := ⟨_, _, _, rfl⟩
  have hstop : interrupted.StopsAt {} [5] 3 [8] (.noStrategy 3 "TopK") :=
    ⟨by decide, _, _, rfl, rfl⟩
  obtain ⟨-, -, -, -, hleaves⟩ := inferShapes_leaves hreachable {}
  obtain ⟨hkept, -, hpart⟩ := hleaves _ _ _ _ hstop
  exact ⟨hstop, hkept, hpart⟩

end Graph

end OpGraph
