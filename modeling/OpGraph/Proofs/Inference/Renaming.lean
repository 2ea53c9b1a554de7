import OpGraph.Proofs.Graph.Renaming
import OpGraph.Proofs.Inference.Progress

/-!
# Inference under other numbers

Numbers name nodes and ports in errors and decide which of several ready nodes is visited first, but
no shape hangs on them. So where a run on a graph succeeds, a run on the graph with other numbers
does, though it may go through the nodes in another order; it counts the same and finds the same
shapes.
-/

namespace OpGraph

namespace Node

variable {ρ : Renaming} {n : Node} {strategy : Strategy} {inputs shapes : List Shape}

theorem onAllOutputs_rename (s : Shape) : (n.rename ρ).onAllOutputs s = n.onAllOutputs s := by
  simp [onAllOutputs, rename]

/-- A rule finds the same shapes under other numbers. -/
theorem inferShapes_rename_eq_ok_iff :
    (n.rename ρ).inferShapes strategy inputs = .ok shapes ↔
      n.inferShapes strategy inputs = .ok shapes := by
  cases strategy with
  | recorded =>
    simp only [inferShapes, recordedShapes_eq_ok_iff, rename, List.forall₂_map_left_iff]
  | identity => simp only [inferShapes, identityShapes_eq_ok_iff, onAllOutputs_rename]
  | broadcast => simp only [inferShapes, broadcastShapes_eq_ok_iff, onAllOutputs_rename]
  | fromAttribute =>
    simp only [inferShapes, attributeShapes_eq_ok_iff, onAllOutputs_rename]
    rfl
  | unspecified => simp [inferShapes]

/-- Verification of computed shapes does not depend on numbers. -/
theorem checkOutputs_rename_eq_ok_iff :
    (n.rename ρ).checkOutputs shapes = .ok () ↔ n.checkOutputs shapes = .ok () := by
  simp only [checkOutputs_eq_ok_iff, rename, List.zip_map_left, List.mem_map]
  constructor
  · intro h p s hps r hr
    exact h _ s ⟨(p, s), hps, rfl⟩ r hr
  · rintro h _ s ⟨⟨p, s'⟩, hps, heq⟩ r hr
    obtain ⟨rfl, rfl⟩ := Prod.mk.inj heq
    exact h p s' hps r hr

end Node

namespace Graph

namespace Renames

variable {ρ : Renaming} {g g' g₀ : Graph} {n n' : Node} {options : InferOptions}
  {shapes : List Shape} {report : InferReport}

section Visit

/-- If the same shapes arrive under the new numbers, the same are gathered. -/
theorem gatherInputs_rename_eq_ok_iff (harriving : ∀ port,
      g'.arriving? (ρ.node n.id) (ρ.input n.id port) = g.arriving? n.id port) :
    g'.gatherInputs (n.rename ρ) = .ok shapes ↔ g.gatherInputs n = .ok shapes := by
  simp only [gatherInputs_eq_ok_iff, Node.rename, List.forall₂_map_left_iff, harriving]

/-- If the same shapes arrive under the new numbers, verification of inputs has the same answer. -/
theorem checkInputs_rename_eq_ok_iff (harriving : ∀ port,
      g'.arriving? (ρ.node n.id) (ρ.input n.id port) = g.arriving? n.id port) :
    g'.checkInputs (n.rename ρ) = .ok () ↔ g.checkInputs n = .ok () := by
  simp only [checkInputs_eq_ok_iff, Node.rename, List.forall_mem_map, harriving]

/-- A visit finds the same shapes under other numbers if the same stands at the sources of the edges
into the node. -/
theorem shapesOf_eq_ok_iff (h : Renames ρ g' g) (hg' : g'.WellFormed) (hg : g.WellFormed)
    (hframe : n'.withoutShapes = (n.rename ρ).withoutShapes)
    (hfed : ∀ e ∈ g.edges, e.target.node = n.id →
      g'.shapeAt? (e.source.rename ρ.node ρ.output) = g.shapeAt? e.source) :
    g'.shapesOf options n' = .ok shapes ↔ g.shapesOf options n = .ok shapes := by
  have harriving := h.arriving?_eq hg' hg hfed
  have hstrategy : (n.rename ρ).effectiveStrategy options.fallbackToRecorded =
      n.effectiveStrategy options.fallbackToRecorded := Node.effectiveStrategy_congr rfl _
  rw [shapesOf_eq_of_arriving? hframe fun p _ => rfl]
  simp only [Graph.shapesOf_eq_ok_iff, hstrategy, gatherInputs_rename_eq_ok_iff harriving,
    checkInputs_rename_eq_ok_iff harriving, Node.inferShapes_rename_eq_ok_iff,
    Node.checkOutputs_rename_eq_ok_iff]

end Visit

section Run

theorem strategiesOf_eq (h : Renames ρ g' g) (ids : List NodeId) :
    g'.strategiesOf (ids.map ρ.node) = g.strategiesOf ids := by
  have hstrategy : ∀ id,
      (g'.node? (ρ.node id)).map Node.strategy = (g.node? id).map Node.strategy := by
    intro id
    have hmap := congrArg (Option.map Node.strategy) (h.node id)
    rw [Option.map_map, Option.map_map, Option.map_map] at hmap
    exact hmap
  simp only [strategiesOf, List.filterMap_map, Function.comp_def, hstrategy]

/-- A visit under new numbers finds the shapes that a finished run has left under the old ones. -/
theorem exists_shapesOf {order : List NodeId} (h : Renames ρ g' g) (hg' : g'.WellFormed)
    (hg : g.WellFormed) (horder : g₀.IsOrder order) (hdone : Progress options g₀ order g report)
    (hn' : g'.node? n'.id = some n')
    (hfed : ∀ e ∈ g.edges, (e.rename ρ).target.node = n'.id →
      g'.shapeAt? (e.rename ρ).source = g.shapeAt? e.source) :
    ∃ shapes, g'.shapesOf options n' = .ok shapes ∧ List.Forall₂
      (fun p' s => ∀ t : Terminal, t.rename ρ.node ρ.output = ⟨n'.id, p'.id⟩ →
        g.shapeAt? t = some s) n'.outputs shapes := by
  obtain ⟨id, hid⟩ := ρ.node.surjective n'.id
  obtain ⟨n, hn, hframe⟩ := h.exists_original (hid ▸ hn')
  obtain rfl : n.id = id := hg.id_eq id n hn
  obtain ⟨shapes, hshapes, houtputs⟩ := hdone.exists_shapesOf horder hn
  refine ⟨shapes, (h.shapesOf_eq_ok_iff hg' hg hframe ?_).2 hshapes, ?_⟩
  · intro e he htarget
    exact hfed e he (hid ▸ congrArg ρ.node htarget)
  · have hports : n'.outputs.map OutputPort.id =
        (n.outputs.map OutputPort.id).map (ρ.output n.id) := by
      rw [Node.map_id_outputs_eq hframe, Node.map_id_outputs_rename]
    have hfound : List.Forall₂ (fun port' s => ∀ t : Terminal,
        t.rename ρ.node ρ.output = ⟨n'.id, port'⟩ → g.shapeAt? t = some s)
        (n'.outputs.map OutputPort.id) shapes := by
      rw [hports, List.forall₂_map_left_iff, List.forall₂_map_left_iff]
      refine (hg.forall₂_shapeAt? hn houtputs).imp fun p s hs t ht => ?_
      obtain rfl : t = ⟨n.id, p.id⟩ :=
        Terminal.rename_injective ρ.node ρ.output (ht.trans (hid ▸ rfl))
      exact hs
    exact List.forall₂_map_left_iff.1 hfound

/-- If all shapes are the same, each node has the same shapes under its new number, in the order of
its ports. -/
theorem outputShapes_eq (h : Renames ρ g' g) (hg' : g'.WellFormed) (hg : g.WellFormed)
    (hshape : ∀ t, g.IsOutput t → g'.shapeAt? (t.rename ρ.node ρ.output) = g.shapeAt? t)
    (id : NodeId) :
    (g'.node? (ρ.node id)).map Node.outputShapes = (g.node? id).map Node.outputShapes := by
  cases hn : g.node? id with
  | none =>
    have hnone : g'.node? (ρ.node id) = none := by
      simpa [hn] using h.node id
    rw [hnone, Option.map_none]
  | some n =>
    obtain ⟨n', hn', hframe⟩ := h.exists_renamed hn
    obtain rfl : n.id = id := hg.id_eq id n hn
    rw [hn', Option.map_some, Option.map_some, hg'.outputShapes_eq hn', hg.outputShapes_eq hn,
      Node.map_id_outputs_eq hframe, Node.map_id_outputs_rename, List.map_map]
    refine congrArg some (List.map_congr_left fun port hport => ?_)
    exact hshape ⟨n.id, port⟩ ⟨n, hn, List.mem_map.1 hport⟩

/-- A run that succeeds on a graph succeeds on the graph with new numbers. It counts the same, and
each node holds the shapes that the node holds whose number was replaced. -/
theorem inferShapes (h : Renames ρ g' g) (hg' : g'.WellFormed) (hg : g.WellFormed)
    (hrun : (g.inferShapes options).result = .ok report) :
    (g'.inferShapes options).result = .ok report ∧ ∀ id,
      ((g'.inferShapes options).graph.node? (ρ.node id)).map Node.outputShapes =
        ((g.inferShapes options).graph.node? id).map Node.outputShapes := by
  obtain ⟨hacyclic, order, horder, hdone⟩ := exists_progress_of_ok hg hrun
  generalize (g.inferShapes options).graph = k at hdone
  have hk : k.WellFormed := hg.of_sameFrame hdone.sameFrame
  -- all that is said of shapes under new numbers is that they are those left in `k`
  let P : Terminal → Shape → Prop := fun t' s =>
    ∀ t : Terminal, t.rename ρ.node ρ.output = t' → k.shapeAt? t = some s
  have hvisit : ∀ k' n', SameFrame g' k' → k'.node? n'.id = some n' →
      (∀ e ∈ g'.edges, e.target.node = n'.id →
        ∃ s, k'.shapeAt? e.source = some s ∧ P e.source s) →
      ∃ shapes, k'.shapesOf options n' = .ok shapes ∧
        List.Forall₂ (fun p' s => P ⟨n'.id, p'.id⟩ s) n'.outputs shapes := by
    intro k' n' hgk' hn' hfed
    refine (h.of_sameFrame hgk' hdone.sameFrame).exists_shapesOf (hg'.of_sameFrame hgk') hk horder
      hdone hn' ?_
    intro e he htarget
    have he' : e.rename ρ ∈ g'.edges := by
      rw [h.edges_eq, hdone.sameFrame.edges_eq]
      exact List.mem_map_of_mem he
    obtain ⟨s, hs, hP⟩ := hfed (e.rename ρ) he' htarget
    rw [hs, hP e.source rfl]
  obtain ⟨report', hrun', hshape⟩ :=
    exists_report_of_forall_visit hg' (h.not_hasCycle hacyclic) hvisit
  obtain ⟨-, order', horder', hdone'⟩ := exists_progress_of_ok hg' hrun'
  have hreport : report' = report := by
    rw [hdone'.report_eq, hdone.report_eq, ← h.strategiesOf_eq]
    exact InferReport.ofStrategies_perm ((h.perm_of_isOrder horder horder').filterMap _)
  refine ⟨hreport ▸ hrun', ?_⟩
  refine (h.of_sameFrame hdone'.sameFrame hdone.sameFrame).outputShapes_eq
    (hg'.of_sameFrame hdone'.sameFrame) hk fun t ht => ?_
  have ht' : g'.IsOutput (t.rename ρ.node ρ.output) :=
    h.isOutput hg ((hdone.sameFrame.isOutput_iff t).2 ht)
  obtain ⟨s, hs, hP⟩ := hshape _ ht'
  rw [hs, hP t rfl]

end Run

end Renames

end Graph

end OpGraph
