import OpGraph.Proofs.Graph.Order
import OpGraph.Proofs.Inference.Rule

/-!
# The course of a run

A run of inference goes through an order of the graph. At every point of it the nodes visited so far
hold the shapes that their rules give in the present state, and the others are as they were. A node
is visited after all that feed it, so later visits change nothing that an earlier one has used.

## Main definitions

- `InferReport.ofStrategies`: the counts of a run, by the strategies of the nodes it went through
- `Graph.Progress`: what holds of the graph after some nodes of a run
- `Graph.RunOutcome`: the ways in which a run can end

## Main statements

- `Graph.Progress.visit`: one visit
- `Graph.runOutcome_inferShapes`: every run of inference on a well-formed graph
- `Graph.Progress.induction`: what the rules hand on from node to node holds of all visited nodes
-/

namespace OpGraph

namespace InferReport

/-- The counts of a run through nodes of the given strategies. -/
def ofStrategies (fallback : Bool) (strategies : List Strategy) : InferReport where
  visited := strategies.length
  fromRecorded := strategies.countP fun s => s = .recorded ∨ s = .unspecified ∧ fallback
  computed := strategies.countP fun s => ¬ (s = .recorded ∨ s = .unspecified ∧ fallback)
  fallbacks := strategies.countP fun s => s = .unspecified ∧ fallback

/-- What a report counts does not depend on the order of the visits. -/
theorem ofStrategies_perm {fallback : Bool} {ss ss' : List Strategy} (h : ss.Perm ss') :
    ofStrategies fallback ss = ofStrategies fallback ss' := by
  simp only [ofStrategies, h.length_eq, h.countP_eq]

theorem ofStrategies_snoc (fallback : Bool) (ss : List Strategy) (n : Node) :
    ofStrategies fallback (ss ++ [n.strategy]) =
      (ofStrategies fallback ss).count n (n.effectiveStrategy fallback) := by
  cases fallback <;> cases hs : n.strategy <;>
    simp [ofStrategies, count, Node.effectiveStrategy, hs, List.countP_append]

end InferReport

/-- Runs are equal if they leave equal graphs and equal results. -/
@[ext] theorem InferOutcome.ext {a b : InferOutcome} (hgraph : a.graph = b.graph)
    (hresult : a.result = b.result) : a = b := by
  cases a
  cases b
  simp only at hgraph hresult
  rw [hgraph, hresult]

namespace Graph

variable {g₀ g g' : Graph} {options : InferOptions} {report report' : InferReport}
  {done order : List NodeId} {id : NodeId} {n m : Node}

/-- The strategies of the nodes with the given numbers. -/
def strategiesOf (g : Graph) (ids : List NodeId) : List Strategy :=
  ids.filterMap fun id => (g.node? id).map Node.strategy

/-- What holds after the nodes `done` of a run on `g₀` were visited. -/
structure Progress (options : InferOptions) (g₀ : Graph) (done : List NodeId) (g : Graph)
    (report : InferReport) : Prop where
  sameFrame : SameFrame g₀ g
  -- visited nodes hold the shapes that a visit would find now
  settled : ∀ id ∈ done, ∃ n shapes, g.node? id = some n ∧ g.shapesOf options n = .ok shapes ∧
    n.outputShapes = shapes.map some
  untouched : ∀ id, id ∉ done → g.node? id = g₀.node? id
  report_eq : report = .ofStrategies options.fallbackToRecorded (g₀.strategiesOf done)

theorem shapeAt?_setNode_of_ne {t : Terminal} (hne : t.node ≠ id) :
    (g.setNode id n).shapeAt? t = g.shapeAt? t := by
  rw [shapeAt?, node?_setNode, if_neg hne, shapeAt?]

/-- A visit to a node that is fed by visited nodes only makes one more visited node. -/
theorem Progress.visit (hg : g₀.WellFormed) (h : Progress options g₀ done g report)
    (hnew : id ∉ done) (hclosed : ∀ e ∈ g₀.edges, e.target.node ∈ done → e.source.node ∈ done)
    (hsource : ∀ e ∈ g₀.edges, e.target.node = id → e.source.node ∈ done)
    (hvisit : g.visit options report id = .ok (g', report')) :
    Progress options g₀ (done ++ [id]) g' report' := by
  obtain ⟨n, shapes, hn, hshapes, hset, rfl⟩ := visit_eq_ok_iff.1 hvisit
  obtain ⟨n', m, hn', hframe, houtputs, rfl⟩ := setOutputShapes_eq_ok_iff.1 hset
  obtain rfl : n = n' := Option.some.inj (hn.symm.trans hn')
  have hwf : g.WellFormed := hg.of_sameFrame h.sameFrame
  have hstep : SameFrame g (g.setNode id m) := sameFrame_setNode hn hframe
  have hedges : g.edges = g₀.edges := h.sameFrame.edges_eq.symm
  -- the shapes at visited nodes stay, and only these feed the node and the nodes visited before
  have hkept : ∀ t : Terminal, t.node ∈ done →
      g.shapeAt? t = (g.setNode id m).shapeAt? t := by
    intro t ht
    refine (shapeAt?_setNode_of_ne ?_).symm
    rintro rfl
    exact hnew ht
  refine ⟨h.sameFrame.trans hstep, ?_, ?_, ?_⟩
  · intro v hv
    by_cases hvid : v = id
    · subst hvid
      refine ⟨m, shapes, by simp [node?_setNode], ?_, houtputs⟩
      rw [← hshapes]
      refine (shapesOf_congr hwf hstep hframe.symm ?_).symm
      intro e he htarget
      rw [hwf.id_eq _ n hn] at htarget
      exact hkept _ (hsource e (hedges ▸ he) htarget)
    · have hvdone : v ∈ done := by simpa [hvid] using hv
      obtain ⟨k, shapes', hk, hshapes', houtputs'⟩ := h.settled v hvdone
      refine ⟨k, shapes', by rw [node?_setNode, if_neg hvid, hk], ?_, houtputs'⟩
      rw [← hshapes']
      refine (shapesOf_congr hwf hstep rfl ?_).symm
      intro e he htarget
      rw [hwf.id_eq _ k hk] at htarget
      exact hkept _ (hclosed e (hedges ▸ he) (htarget ▸ hvdone))
  · intro v hv
    simp only [List.mem_append, List.mem_singleton, not_or] at hv
    rw [node?_setNode, if_neg hv.2, h.untouched v hv.1]
  · obtain ⟨n₀, hn₀, hframe₀⟩ := h.sameFrame.symm.exists_node? hn
    have hstrategy : n₀.strategy = n.strategy := (congrArg Node.strategy hframe₀ :)
    have hsnoc : g₀.strategiesOf (done ++ [id]) = g₀.strategiesOf done ++ [n.strategy] := by
      simp [strategiesOf, List.filterMap_append, hn₀, hstrategy]
    rw [h.report_eq, hsnoc, InferReport.ofStrategies_snoc]

theorem progress_nil (options : InferOptions) (g : Graph) : Progress options g [] g {} where
  sameFrame := SameFrame.refl g
  settled := by simp
  untouched _ _ := rfl
  report_eq := rfl

/-- When a node has been visited, so have the sources of its edges. -/
theorem IsOrder.source_mem_of_target_mem {rest : List NodeId} (horder : g₀.IsOrder (done ++ rest))
    {e : Edge} (he : e ∈ g₀.edges) (htarget : e.target.node ∈ done) : e.source.node ∈ done := by
  obtain ⟨before, after, hsplit⟩ := List.append_of_mem htarget
  have hmem := horder.source_mem before e.target.node (after ++ rest) (by simp [hsplit]) e he rfl
  rw [hsplit]
  exact List.mem_append_left _ hmem

/-- Where a node holds shapes, there is one at each of its outputs. -/
theorem WellFormed.exists_shapeAt? (hg : g.WellFormed) {t : Terminal} (ht : g.IsOutput t)
    (hn : g.node? t.node = some n) {shapes : List Shape}
    (houtputs : n.outputShapes = shapes.map some) : ∃ s, g.shapeAt? t = some s := by
  obtain ⟨m, hm, p, hp, hport⟩ := ht
  obtain rfl : n = m := Option.some.inj (hn.symm.trans hm)
  obtain ⟨s, -, hs⟩ := exists_mem_of_forall₂ (hg.forall₂_shapeAt? hn houtputs) p hp
  rw [hport] at hs
  exact ⟨s, hs⟩

/-- Every edge into the node that is visited next brings a shape. -/
theorem Progress.exists_shapeAt?_source (hg : g₀.WellFormed) {rest : List NodeId}
    (horder : g₀.IsOrder (done ++ id :: rest)) (h : Progress options g₀ done g report) {e : Edge}
    (he : e ∈ g₀.edges) (htarget : e.target.node = id) : ∃ s, g.shapeAt? e.source = some s := by
  have hdone : e.source.node ∈ done := horder.source_mem done id rest rfl e he htarget
  obtain ⟨n, shapes, hn, -, houtputs⟩ := h.settled e.source.node hdone
  have hsource : g.IsOutput e.source := (h.sameFrame.isOutput_iff _).1 (hg.isOutput_source e he)
  exact (hg.of_sameFrame h.sameFrame).exists_shapeAt? hsource hn houtputs

/-- A further part of a run goes through all its nodes, or stops at the first of them for which no
shapes are found. -/
theorem Progress.visitAll (hg : g₀.WellFormed) {rest tail : List NodeId}
    (horder : g₀.IsOrder (done ++ (rest ++ tail))) (h : Progress options g₀ done g report) :
    (∃ g' report', visitAll options rest g report = ⟨g', .ok report'⟩ ∧
      Progress options g₀ (done ++ rest) g' report') ∨
    ∃ before id after g' report' n err, rest = before ++ id :: after ∧
      visitAll options rest g report = ⟨g', .error err⟩ ∧
      Progress options g₀ (done ++ before) g' report' ∧ g'.node? id = some n ∧
      g'.shapesOf options n = .error err := by
  induction rest generalizing done g report with
  | nil => exact Or.inl ⟨g, report, rfl, by simpa using h⟩
  | cons id rest ih =>
    -- the order lists each node once, so the next one is as it was before the run
    have hnew : id ∉ done := not_mem_of_nodup_split horder.nodup
    obtain ⟨n₀, hn₀⟩ := (horder.mem_iff id).1 (by simp)
    have hn : g.node? id = some n₀ := (h.untouched id hnew).trans hn₀
    rw [Graph.visitAll]
    cases hvisit : g.visit options report id with
    | error err =>
      exact Or.inr ⟨[], id, rest, g, report, n₀, err, rfl, rfl, by simpa using h, hn,
        (visit_eq_error_iff hn).1 hvisit⟩
    | ok next =>
      obtain ⟨g', report'⟩ := next
      have hnext : Progress options g₀ (done ++ [id]) g' report' :=
        h.visit hg hnew (fun e he => horder.source_mem_of_target_mem he)
          (horder.source_mem done id (rest ++ tail) rfl) hvisit
      have horder' : g₀.IsOrder ((done ++ [id]) ++ (rest ++ tail)) := by simpa using horder
      rcases ih horder' hnext with ⟨g'', r, hrun, hprogress⟩ |
        ⟨before, v, after, g'', r, n, err, rfl, hrun, hprogress, hfail⟩
      · exact Or.inl ⟨g'', r, hrun, by simpa using hprogress⟩
      · exact Or.inr ⟨id :: before, v, after, g'', r, n, err, rfl, hrun, by simpa using hprogress,
          hfail⟩

/-- A run on a graph that has an order visits the nodes in it. -/
theorem inferShapes_of_ok (hsort : g.topologicalOrder = .ok order) :
    g.inferShapes options = Graph.visitAll options order g {} := by
  simp only [inferShapes, hsort]

/-- A run on a graph without an order leaves it unchanged. -/
theorem inferShapes_of_error {err : GraphError} (hsort : g.topologicalOrder = .error err) :
    g.inferShapes options = ⟨g, .error (.graph err)⟩ := by
  simp only [inferShapes, hsort]

/-- The ways in which a run on a graph can end. -/
inductive RunOutcome (options : InferOptions) (g : Graph) : InferOutcome → Prop
  -- the graph has no order, and nothing is visited
  | cyclic {stuck : List NodeId} (hcycle : HasCycle g.links)
      (hsort : g.topologicalOrder = .error (.cycle stuck)) :
      RunOutcome options g ⟨g, .error (.graph (.cycle stuck))⟩
  -- all nodes are visited
  | finished {order : List NodeId} {h : Graph} {report : InferReport}
      (hacyclic : ¬ HasCycle g.links) (hsort : g.topologicalOrder = .ok order)
      (horder : g.IsOrder order) (hprogress : Progress options g order h report) :
      RunOutcome options g ⟨h, .ok report⟩
  -- no shapes are found for a node, and it and all behind it are left as they were
  | stopped {before after : List NodeId} {id : NodeId} {h : Graph} {report : InferReport}
      {n : Node} {err : InferError} (hacyclic : ¬ HasCycle g.links)
      (hsort : g.topologicalOrder = .ok (before ++ id :: after))
      (horder : g.IsOrder (before ++ id :: after))
      (hprogress : Progress options g before h report) (hn : h.node? id = some n)
      (hfail : h.shapesOf options n = .error err) : RunOutcome options g ⟨h, .error err⟩

/-- Every run of inference on a well-formed graph ends in one of three ways: it has an order and
visits all nodes, it fails at one of them, or there is a cycle. -/
theorem runOutcome_inferShapes (hg : g.WellFormed) (options : InferOptions) :
    RunOutcome options g (g.inferShapes options) := by
  rcases hg.topologicalOrder_cases with ⟨hacyclic, order, hsort, horder⟩ | ⟨hcycle, stuck, hsort⟩
  · rw [inferShapes_of_ok hsort]
    have horder' : g.IsOrder ([] ++ (order ++ [])) := by simpa using horder
    rcases (progress_nil options g).visitAll hg horder' with
      ⟨h, report, hrun, hprogress⟩ |
      ⟨before, id, after, h, report, n, err, rfl, hrun, hprogress, hn, hfail⟩
    · rw [hrun]
      exact .finished hacyclic hsort horder hprogress
    · rw [hrun]
      exact .stopped hacyclic hsort horder hprogress hn hfail
  · rw [inferShapes_of_error hsort]
    exact .cyclic hcycle hsort

section Induction

variable {P : Terminal → Shape → Prop}

/-- What a visit to any node makes true of the shapes it finds, given that it is true of the shapes
that feed the node, is true of the shapes at all visited nodes. -/
theorem Progress.induction (hg : g₀.WellFormed) {rest : List NodeId}
    (horder : g₀.IsOrder (done ++ rest)) (h : Progress options g₀ done g report)
    (hstep : ∀ n shapes, g.node? n.id = some n →
      (∀ e ∈ g₀.edges, e.target.node = n.id → ∃ s, g.shapeAt? e.source = some s ∧ P e.source s) →
      g.shapesOf options n = .ok shapes →
      List.Forall₂ (fun p s => P ⟨n.id, p.id⟩ s) n.outputs shapes) :
    ∀ t, g₀.IsOutput t → t.node ∈ done → ∃ s, g.shapeAt? t = some s ∧ P t s := by
  have hwf : g.WellFormed := hg.of_sameFrame h.sameFrame
  -- by induction on how many nodes come before the node of the port
  have hprefix : ∀ k before v after, before.length = k → done = before ++ v :: after →
      ∀ t, g₀.IsOutput t → t.node = v → ∃ s, g.shapeAt? t = some s ∧ P t s := by
    intro k
    induction k using Nat.strong_induction_on with
    | _ k ih =>
      rintro before v after rfl hsplit t ht rfl
      obtain ⟨n, shapes, hn, hshapes, houtputs⟩ := h.settled t.node (by simp [hsplit])
      have hid : n.id = t.node := hwf.id_eq _ n hn
      have hfed : ∀ e ∈ g₀.edges, e.target.node = n.id →
          ∃ s, g.shapeAt? e.source = some s ∧ P e.source s := by
        intro e he htarget
        have hmem : e.source.node ∈ before :=
          horder.source_mem before t.node (after ++ rest) (by simp [hsplit]) e he
            (htarget.trans hid)
        obtain ⟨before', after', rfl⟩ := List.append_of_mem hmem
        exact ih before'.length (by simp) before' _ (after' ++ t.node :: after) rfl
          (by simpa using hsplit) e.source (hg.isOutput_source e he) rfl
      have hboth : List.Forall₂ (fun p s => g.shapeAt? ⟨t.node, p.id⟩ = some s ∧ P ⟨n.id, p.id⟩ s)
          n.outputs shapes :=
        List.Forall₂.mp (fun _ _ => And.intro) (hwf.forall₂_shapeAt? hn houtputs)
          (hstep n shapes (hid ▸ hn) hfed hshapes)
      obtain ⟨n', hn', p, hp, hport⟩ := (h.sameFrame.isOutput_iff t).1 ht
      obtain rfl : n = n' := Option.some.inj (hn.symm.trans hn')
      obtain ⟨s, -, hs⟩ := exists_mem_of_forall₂ hboth p hp
      rw [hid, hport] at hs
      exact ⟨s, hs⟩
  intro t ht hmem
  obtain ⟨before, after, hsplit⟩ := List.append_of_mem hmem
  exact hprefix _ before t.node after rfl hsplit t ht rfl

/-- A run succeeds if every visit finds shapes of which `P` is true, given that it is true of the
shapes that feed the node. It is true of all shapes then. -/
theorem exists_report_of_forall_visit (hg : g.WellFormed) (hacyclic : ¬ HasCycle g.links)
    (hvisit : ∀ h n, SameFrame g h → h.node? n.id = some n →
      (∀ e ∈ g.edges, e.target.node = n.id → ∃ s, h.shapeAt? e.source = some s ∧ P e.source s) →
      ∃ shapes, h.shapesOf options n = .ok shapes ∧
        List.Forall₂ (fun p s => P ⟨n.id, p.id⟩ s) n.outputs shapes) :
    ∃ report, (g.inferShapes options).result = .ok report ∧
      ∀ t, g.IsOutput t → ∃ s, (g.inferShapes options).graph.shapeAt? t = some s ∧ P t s := by
  -- the shapes that a visit is said to find are those that it finds
  have hstep : ∀ h, SameFrame g h → ∀ n shapes, h.node? n.id = some n →
      (∀ e ∈ g.edges, e.target.node = n.id → ∃ s, h.shapeAt? e.source = some s ∧ P e.source s) →
      h.shapesOf options n = .ok shapes →
      List.Forall₂ (fun p s => P ⟨n.id, p.id⟩ s) n.outputs shapes := by
    intro h hgh n shapes hn hfed hshapes
    obtain ⟨shapes', hshapes', hP⟩ := hvisit h n hgh hn hfed
    rw [hshapes] at hshapes'
    obtain rfl := Except.ok.inj hshapes'
    exact hP
  have houtcome := runOutcome_inferShapes hg options
  generalize g.inferShapes options = outcome at houtcome
  cases houtcome with
  | cyclic hcycle => exact absurd hcycle hacyclic
  | @finished order h report _ _ horder hprogress =>
    have horder' : g.IsOrder (order ++ []) := by simpa using horder
    have hP := hprogress.induction hg horder' (hstep h hprogress.sameFrame)
    refine ⟨report, rfl, fun t ht => hP t ht ?_⟩
    obtain ⟨n, hn, -⟩ := ht
    exact (horder.mem_iff t.node).2 ⟨n, hn⟩
  | @stopped before after id h report n err _ _ horder hprogress hn hfail =>
    have hP := hprogress.induction hg horder (hstep h hprogress.sameFrame)
    have hid : n.id = id := (hg.of_sameFrame hprogress.sameFrame).id_eq id n hn
    obtain ⟨shapes, hshapes, -⟩ := hvisit h n hprogress.sameFrame (hid ▸ hn) fun e he htarget =>
      hP e.source (hg.isOutput_source e he)
        (horder.source_mem before id after rfl e he (htarget.trans hid))
    rw [hfail] at hshapes
    cases hshapes

end Induction

/-- A run that succeeds has visited every node. -/
theorem exists_progress_of_ok (hg : g.WellFormed)
    (hrun : (g.inferShapes options).result = .ok report) :
    ¬ HasCycle g.links ∧ ∃ order, g.IsOrder order ∧
      Progress options g order (g.inferShapes options).graph report := by
  have houtcome := runOutcome_inferShapes hg options
  generalize g.inferShapes options = outcome at houtcome hrun
  cases houtcome with
  | cyclic => cases hrun
  | @finished order h report' hacyclic _ horder hprogress =>
    obtain rfl := Except.ok.inj hrun
    exact ⟨hacyclic, order, horder, hprogress⟩
  | stopped => cases hrun

/-- After a run that succeeds, every node holds the shapes that a visit would find again. -/
theorem Progress.exists_shapesOf {order : List NodeId} (horder : g₀.IsOrder order)
    (h : Progress options g₀ order g report) (hn : g.node? id = some n) :
    ∃ shapes, g.shapesOf options n = .ok shapes ∧ n.outputShapes = shapes.map some := by
  obtain ⟨n₀, hn₀, -⟩ := h.sameFrame.symm.exists_node? hn
  obtain ⟨m, shapes, hm, hshapes⟩ := h.settled id ((horder.mem_iff id).2 ⟨n₀, hn₀⟩)
  obtain rfl : n = m := Option.some.inj (hn.symm.trans hm)
  exact ⟨shapes, hshapes⟩

end Graph

end OpGraph
