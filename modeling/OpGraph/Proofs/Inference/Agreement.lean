import OpGraph.Proofs.Inference.Failure

/-!
# Runs side by side

Two graphs with the same producers and the same nodes up to inferred shapes may hold different
shapes from before. Visits in one order then go alike on both: a node is visited after all that feed
it, so a visit reads only what was found in the same way on both sides. The runs find the same
shapes, count the same and fail with the same error.
-/

namespace OpGraph

namespace Graph

variable {g h g' h' : Graph} {options : InferOptions} {report : InferReport} {S : NodeId → Prop}
  {id : NodeId} {order : List NodeId}

/-- Two graphs have the same producers and under each number nodes of the same frame, and under the
numbers in `S` the same node. -/
structure AgreeOn (S : NodeId → Prop) (g h : Graph) : Prop where
  frame : ∀ id, (g.node? id).map Node.withoutShapes = (h.node? id).map Node.withoutShapes
  producer : g.producer? = h.producer?
  node : ∀ id, S id → g.node? id = h.node? id

/-- Graphs with one frame agree on no shapes at least. -/
theorem SameFrame.agreeOn (hgh : SameFrame g h) : AgreeOn (fun _ => False) g h where
  frame := hgh.node?_map_eq
  producer := hgh.producer?_eq
  node _ := False.elim

theorem AgreeOn.mono {T : NodeId → Prop} (hgh : AgreeOn S g h) (hTS : ∀ id, T id → S id) :
    AgreeOn T g h :=
  ⟨hgh.frame, hgh.producer, fun id hid => hgh.node id (hTS id hid)⟩

/-- At the nodes that graphs agree on they have the same shapes. -/
theorem AgreeOn.shapeAt?_eq (hgh : AgreeOn S g h) {t : Terminal} (ht : S t.node) :
    g.shapeAt? t = h.shapeAt? t := by
  rw [shapeAt?, shapeAt?, hgh.node _ ht]

/-- Storing one node of the frame that is there makes the graphs agree at its number too. -/
theorem AgreeOn.setNode (hgh : AgreeOn S g h) (id : NodeId) (n : Node) :
    AgreeOn (fun v => S v ∨ v = id) (g.setNode id n) (h.setNode id n) where
  frame v := by
    rw [node?_setNode, node?_setNode]
    split
    · rfl
    · exact hgh.frame v
  producer := hgh.producer
  node v hv := by
    rw [node?_setNode, node?_setNode]
    split
    · rfl
    next hne => exact hgh.node v (hv.resolve_right hne)

/-- A visit on two graphs that agree at all nodes feeding the visited one fails with the same error
on both, or stores the same node and counts it in the same way. -/
theorem AgreeOn.visit (hg : g.WellFormed) (hgh : AgreeOn S g h)
    (hsource : ∀ e ∈ g.edges, e.target.node = id → S e.source.node) (options : InferOptions)
    (report : InferReport) :
    (∃ err, g.visit options report id = .error err ∧ h.visit options report id = .error err) ∨
    ∃ m report', g.visit options report id = .ok (g.setNode id m, report') ∧
      h.visit options report id = .ok (h.setNode id m, report') := by
  have hframe := hgh.frame id
  cases hn : g.node? id with
  | none =>
    have hn' : h.node? id = none := by simpa [hn] using hframe.symm
    exact Or.inl ⟨.graph (.unknownNode id), by simp [Graph.visit, hn]; rfl,
      by simp [Graph.visit, hn']; rfl⟩
  | some n =>
    rw [hn, Option.map_some, eq_comm, Option.map_eq_some_iff] at hframe
    obtain ⟨n', hn', hnn'⟩ := hframe
    have hid : n.id = id := hg.id_eq id n hn
    -- what arrives comes from nodes at which the graphs agree
    have harriving : ∀ p ∈ n.inputs, g.arriving? n.id p.id = h.arriving? n.id p.id := by
      intro p _
      rw [arriving?, arriving?, ← hgh.producer]
      cases he : g.producer? n.id p.id with
      | none => rfl
      | some e =>
        obtain ⟨hmem, htarget⟩ := hg.producer?_eq_some_iff.1 he
        exact hgh.shapeAt?_eq (hsource e hmem (by rw [htarget, hid]))
    have hshapesOf : g.shapesOf options n = h.shapesOf options n' :=
      shapesOf_eq_of_arriving? hnn'.symm harriving
    cases hshapes : g.shapesOf options n with
    | error err =>
      exact Or.inl ⟨err, (visit_eq_error_iff hn).2 hshapes,
        (visit_eq_error_iff hn').2 (hshapesOf ▸ hshapes)⟩
    | ok shapes =>
      obtain ⟨m, hm, houtputs, hvisit⟩ := exists_visit_of_shapesOf hn hshapes report
      obtain ⟨m', hm', houtputs', hvisit'⟩ :=
        exists_visit_of_shapesOf hn' (hshapesOf ▸ hshapes) report
      -- both sides store nodes of one frame with the same shapes at their ports
      obtain rfl : m = m' := Node.eq_of_withoutShapes (hm.trans (hnn'.symm.trans hm'.symm))
        (houtputs.trans houtputs'.symm)
      have hstrategy : n'.strategy = n.strategy := (congrArg Node.strategy hnn' :)
      refine Or.inr ⟨m, _, hvisit, ?_⟩
      rw [hvisit', InferReport.count_congr hstrategy, Node.effectiveStrategy_congr hstrategy]

/-- Visits in an order in which each node comes after all that feed it go alike on two graphs that
agree at the nodes that are left out of it. -/
theorem AgreeOn.visitAll (hg : g.WellFormed) (hgh : AgreeOn S g h)
    (hsource : ∀ before id after, order = before ++ id :: after →
      ∀ e ∈ g.edges, e.target.node = id → S e.source.node ∨ e.source.node ∈ before)
    (options : InferOptions) (report : InferReport) :
    (visitAll options order g report).result = (visitAll options order h report).result ∧
    AgreeOn S (visitAll options order g report).graph (visitAll options order h report).graph ∧
    ∀ report', (visitAll options order g report).result = .ok report' →
      AgreeOn (fun v => S v ∨ v ∈ order) (visitAll options order g report).graph
        (visitAll options order h report).graph := by
  induction order generalizing g h report S with
  | nil =>
    refine ⟨rfl, hgh, fun report' _ => hgh.mono fun v hv => ?_⟩
    exact hv.resolve_right List.not_mem_nil
  | cons id order ih =>
    have hfirst : ∀ e ∈ g.edges, e.target.node = id → S e.source.node := by
      intro e he htarget
      exact (hsource [] id order rfl e he htarget).resolve_right List.not_mem_nil
    rcases hgh.visit hg hfirst options report with
      ⟨err, hvisit, hvisit'⟩ | ⟨m, r, hvisit, hvisit'⟩
    · rw [Graph.visitAll, Graph.visitAll, hvisit, hvisit']
      refine ⟨rfl, hgh, fun report' hrun => ?_⟩
      cases hrun
    · have hstep : SameFrame g (g.setNode id m) := sameFrame_visit hvisit
      -- from here on the graphs agree at the visited node as well
      have hrest : ∀ before v after, order = before ++ v :: after →
          ∀ e ∈ (g.setNode id m).edges, e.target.node = v →
            (S e.source.node ∨ e.source.node = id) ∨ e.source.node ∈ before := by
        intro before v after hsplit e he htarget
        have := hsource (id :: before) v after (by rw [hsplit, List.cons_append]) e he htarget
        rwa [List.mem_cons, ← or_assoc] at this
      obtain ⟨hresult, hagree, hall⟩ :=
        ih (hg.of_sameFrame hstep) (hgh.setNode id m) hrest r
      rw [Graph.visitAll, Graph.visitAll, hvisit, hvisit']
      refine ⟨hresult, hagree.mono fun v => Or.inl, fun report' hrun => ?_⟩
      refine (hall report' hrun).mono fun v hv => ?_
      rwa [List.mem_cons, ← or_assoc] at hv

section Run

variable {before after : List NodeId} {err : InferError}

/-- In the first part of an order each edge comes from further in front, so what is visited there
depends on no shapes but those found before. -/
theorem IsOrder.source_mem_of_prefix {rest : List NodeId} (horder : g.IsOrder (order ++ rest)) :
    ∀ before id after, order = before ++ id :: after →
      ∀ e ∈ g.edges, e.target.node = id → False ∨ e.source.node ∈ before := by
  intro before id after hsplit e he htarget
  exact Or.inr (horder.source_mem before id (after ++ rest) (by simp [hsplit]) e he htarget)

/-- Runs on two graphs of one frame have the same result. If it is a report, they leave the same
graph. -/
theorem SameFrame.inferShapes_eq (hg : g.WellFormed) (hgh : SameFrame g h)
    (options : InferOptions) :
    (g.inferShapes options).result = (h.inferShapes options).result ∧
    ∀ report, (g.inferShapes options).result = .ok report →
      g.inferShapes options = h.inferShapes options := by
  have hsort : h.topologicalOrder = g.topologicalOrder := hgh.symm.topologicalOrder_eq
  rcases hg.topologicalOrder_cases with ⟨-, order, horder, hall⟩ | ⟨-, stuck, hstuck⟩
  · rw [inferShapes_of_ok horder, inferShapes_of_ok (hsort.trans horder)]
    have hall' : g.IsOrder (order ++ []) := by simpa using hall
    obtain ⟨hresult, -, hagree⟩ :=
      hgh.agreeOn.visitAll hg hall'.source_mem_of_prefix options {}
    refine ⟨hresult, fun report hrun => ?_⟩
    have hleft := sameFrame_visitAll options order g {}
    have hright := sameFrame_visitAll options order h {}
    refine InferOutcome.ext ?_ hresult
    refine ((hleft.symm.trans hgh).trans hright).eq_of_outputShapes fun id n m hn hm => ?_
    obtain ⟨n₀, hn₀, -⟩ := hleft.symm.exists_node? hn
    have hid : id ∈ order := (hall.mem_iff id).2 ⟨n₀, hn₀⟩
    have hnode := (hagree report hrun).node id (Or.inr hid)
    rw [hn, hm] at hnode
    rw [Option.some.inj hnode]
  · rw [inferShapes_of_error hstuck, inferShapes_of_error (hsort.trans hstuck)]
    exact ⟨rfl, fun report hrun => by cases hrun⟩

/-- A run on another graph of the frame stops at the same node, and the nodes visited until then are
the same. -/
theorem SameFrame.stopsAt (hg : g.WellFormed) (hgh : SameFrame g h)
    (hstop : g.StopsAt options before id after err) : h.StopsAt options before id after err ∧
      ∀ v ∈ before,
        (g.inferShapes options).graph.node? v = (h.inferShapes options).graph.node? v := by
  have horder := hg.isOrder_of_topologicalOrder hstop.order_eq
  obtain ⟨hsort, left, report, hbefore, hfail⟩ := hstop
  obtain ⟨hresult, -, hagree⟩ :=
    hgh.agreeOn.visitAll hg horder.source_mem_of_prefix options {}
  have hframe : SameFrame g left := by
    simpa only [hbefore] using sameFrame_visitAll options before g {}
  obtain ⟨right, hright⟩ : ∃ right, Graph.visitAll options before h {} = ⟨right, .ok report⟩ := by
    rw [hbefore] at hresult
    exact ⟨_, InferOutcome.ext rfl hresult.symm⟩
  have hvisited : AgreeOn (fun v => False ∨ v ∈ before) left right := by
    simpa only [hbefore, hright] using hagree report (by rw [hbefore])
  have hsource : ∀ e ∈ left.edges, e.target.node = id → False ∨ e.source.node ∈ before :=
    fun e he htarget =>
      Or.inr (horder.source_mem before id after rfl e (hframe.edges_eq ▸ he) htarget)
  -- that visit reads only nodes visited before, so it fails on the other side too
  have hfail' : right.visit options report id = .error err := by
    rcases hvisited.visit (hg.of_sameFrame hframe) hsource options report with
      ⟨err', hvisit, hvisit'⟩ | ⟨m, r, hvisit, -⟩
    · rw [hfail] at hvisit
      obtain rfl := Except.error.inj hvisit
      exact hvisit'
    · rw [hfail] at hvisit
      cases hvisit
  have hstop' : h.StopsAt options before id after err :=
    ⟨hgh.topologicalOrder_eq ▸ hsort, right, report, hright, hfail'⟩
  refine ⟨hstop', fun v hv => ?_⟩
  obtain ⟨left', _, hleft', hrun⟩ := StopsAt.inferShapes_eq ⟨hsort, left, report, hbefore, hfail⟩
  obtain ⟨right', _, hright', hrun'⟩ := hstop'.inferShapes_eq
  rw [hbefore, InferOutcome.mk.injEq] at hleft'
  rw [hright, InferOutcome.mk.injEq] at hright'
  rw [hrun, hrun', ← hleft'.1, ← hright'.1]
  exact hvisited.node v (Or.inr hv)

/-- A run on a graph with the same nodes and the same edges in another order has the same result and
leaves the same nodes, also when it fails. -/
theorem inferShapes_eq_of_perm (hg : g.WellFormed) (hh : h.WellFormed) (hnodes : g.nodes = h.nodes)
    (hedges : g.edges.Perm h.edges) (options : InferOptions) :
    (g.inferShapes options).result = (h.inferShapes options).result ∧
      (g.inferShapes options).graph.nodes = (h.inferShapes options).graph.nodes := by
  have hsort : g.topologicalOrder = h.topologicalOrder := topologicalOrder_eq_of_perm hnodes hedges
  have hnode : ∀ id, g.node? id = h.node? id := by
    intro id
    rw [node?, node?, hnodes]
  have hagree : AgreeOn (fun _ => True) g h :=
    ⟨fun id => by rw [hnode], hg.producer?_eq_of_perm hh hedges, fun id _ => hnode id⟩
  cases hresult : h.topologicalOrder with
  | ok order =>
    rw [inferShapes_of_ok (hsort.trans hresult), inferShapes_of_ok hresult]
    obtain ⟨hresult, hleft, -⟩ :=
      hagree.visitAll hg (fun _ _ _ _ _ _ _ => Or.inl trivial) options {}
    exact ⟨hresult, Dictionary.ext_get? fun id => hleft.node id trivial⟩
  | error err =>
    rw [inferShapes_of_error (hsort.trans hresult), inferShapes_of_error hresult]
    exact ⟨rfl, hnodes⟩

/-- The shapes that a graph made by operations holds before a run are of no influence on it. On
another graph that differs in them only, the run has the same result. If that is a report, then both
graphs are the same afterwards, and one more run changes nothing and reports the same. If it is an
error, then either the graphs have a cycle and stay as they are, or both runs stop at one node, and
the nodes visited until then are the same in both graphs. -/
theorem inferShapes_ignores_shapes (hg : g.Reachable) (hgh : SameFrame g h)
    (options : InferOptions) :
    (g.inferShapes options).result = (h.inferShapes options).result ∧
    (∀ report, (g.inferShapes options).result = .ok report →
      (g.inferShapes options).graph = (h.inferShapes options).graph ∧
      (g.inferShapes options).graph.inferShapes options = g.inferShapes options) ∧
    ∀ err, (g.inferShapes options).result = .error err →
      (HasCycle g.links ∧ (g.inferShapes options).graph = g ∧ (h.inferShapes options).graph = h) ∨
      ∃ before id after, g.StopsAt options before id after err ∧
        h.StopsAt options before id after err ∧ ∀ v ∈ before,
          (g.inferShapes options).graph.node? v = (h.inferShapes options).graph.node? v := by
  have hwf : g.WellFormed := hg.wellFormed
  obtain ⟨hresult, hok⟩ := hgh.inferShapes_eq hwf options
  refine ⟨hresult, ?_, ?_⟩
  · intro report hrun
    have hagain := (sameFrame_inferShapes g options).inferShapes_eq hwf options
    exact ⟨congrArg InferOutcome.graph (hok report hrun), (hagain.2 report hrun).symm⟩
  · intro err hrun
    rcases hwf.topologicalOrder_cases with ⟨hacyclic, -⟩ | ⟨hcycle, stuck, hsort⟩
    · obtain ⟨before, id, after, hstop⟩ := exists_stopsAt_of_error hwf hacyclic hrun
      exact Or.inr ⟨before, id, after, hstop, hgh.stopsAt hwf hstop⟩
    · have hsort' : h.topologicalOrder = .error (.cycle stuck) := hgh.topologicalOrder_eq ▸ hsort
      exact Or.inl ⟨hcycle, by rw [inferShapes_of_error hsort], by rw [inferShapes_of_error hsort']⟩

/-- A source and a node that copies its shape, after some further operations. -/
def copied (ops : List Operation) : Graph :=
  (empty "copied" 1).performAll
    ([.addNode ⟨9, "x", "Parameter", none, .empty, [],
        [⟨0, none, some ⟨[.dynamic]⟩, none⟩], .recorded⟩,
      .addNode ⟨4, "y", "Relu", none, .empty, [⟨0, none⟩], [⟨1, none, none, none⟩], .identity⟩,
      .addEdge ⟨⟨9, 0⟩, ⟨4, 0⟩⟩] ++ ops)

theorem inferShapes_copied_ignores_shapes :
    copied [] ≠ copied [.setOutputShapes 9 [⟨[.fixed 7]⟩], .setOutputShapes 4 [.scalar]] ∧
    ((copied []).inferShapes {}).result = .ok ⟨2, 1, 1, 0⟩ ∧
    ((copied []).inferShapes {}).graph =
      ((copied [.setOutputShapes 9 [⟨[.fixed 7]⟩],
        .setOutputShapes 4 [.scalar]]).inferShapes {}).graph ∧
    ((copied []).inferShapes {}).graph.inferShapes {} = (copied []).inferShapes {} := by
  have hreachable : (copied []).Reachable := ⟨_, _, _, rfl⟩
  have hframe : SameFrame (copied [])
      (copied [.setOutputShapes 9 [⟨[.fixed 7]⟩], .setOutputShapes 4 [.scalar]]) := rfl
  have hrun : ((copied []).inferShapes {}).result = .ok ⟨2, 1, 1, 0⟩ := by decide
  obtain ⟨-, hok, -⟩ := inferShapes_ignores_shapes hreachable hframe {}
  exact ⟨by decide, hrun, hok _ hrun⟩

end Run

end Graph

end OpGraph
