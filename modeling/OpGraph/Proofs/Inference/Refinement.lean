import OpGraph.Proofs.Inference.Progress
import OpGraph.Proofs.Shape.Refinement

/-!
# Inference on refined graphs

A graph refines another if it has the same nodes and edges and if the shapes that stand in it refine
those that stand there in the other: recorded shapes and shapes given by attributes. A run that
succeeds on the refined graph succeeds on the coarser one, counts the same and finds coarser shapes.
-/

namespace OpGraph

namespace Node

variable {n n' m m' : Node} {inputs inputs' shapes shapes' : List Shape} {strategy : Strategy}

/-- The same node, except that the shapes recorded in the first, and the shape its attribute gives
where the strategy reads it, refine those of the second. -/
structure Refines (n' n : Node) : Prop where
  id_eq : n'.id = n.id
  strategy_eq : n'.strategy = n.strategy
  inputs : List.Forall₂
    (fun p' p => p'.id = p.id ∧ Option.Rel Shape.Refines p'.recorded p.recorded) n'.inputs n.inputs
  outputs : List.Forall₂
    (fun p' p => p'.id = p.id ∧ Option.Rel Shape.Refines p'.recorded p.recorded)
    n'.outputs n.outputs
  parsed : n.strategy = .fromAttribute → ∀ text' s', n'.attribute? "shape" = some text' →
    Shape.parse text' = .ok s' →
    ∃ text s, n.attribute? "shape" = some text ∧ Shape.parse text = .ok s ∧ s'.Refines s

/-- Whether a node refines another does not depend on the shapes found for them. -/
theorem Refines.of_withoutShapes (h : n'.Refines n) (hframe' : m'.withoutShapes = n'.withoutShapes)
    (hframe : m.withoutShapes = n.withoutShapes) : m'.Refines m := by
  have hinputs' : m'.inputs = n'.inputs := (congrArg Node.inputs hframe' :)
  have hinputs : m.inputs = n.inputs := (congrArg Node.inputs hframe :)
  have hattributes' : m'.attributes = n'.attributes := (congrArg Node.attributes hframe' :)
  have hattributes : m.attributes = n.attributes := (congrArg Node.attributes hframe :)
  have hid' : m'.id = n'.id := (congrArg Node.id hframe' :)
  have hid : m.id = n.id := (congrArg Node.id hframe :)
  have hstrategy' : m'.strategy = n'.strategy := (congrArg Node.strategy hframe' :)
  have hstrategy : m.strategy = n.strategy := (congrArg Node.strategy hframe :)
  constructor
  case id_eq => rw [hid', hid, h.id_eq]
  case strategy_eq => rw [hstrategy', hstrategy, h.strategy_eq]
  case inputs => rw [hinputs', hinputs]; exact h.inputs
  case outputs =>
    -- of a port only its number and its recorded shape are compared, and these the frame keeps
    have hports : ∀ ps' ps : List OutputPort, List.Forall₂
        (fun p' p => p'.id = p.id ∧ Option.Rel Shape.Refines p'.recorded p.recorded) ps' ps ↔
        List.Forall₂ (fun q' q => q'.1 = q.1 ∧ Option.Rel Shape.Refines q'.2 q.2)
          (ps'.map fun p => (p.id, p.recorded)) (ps.map fun p => (p.id, p.recorded)) := by
      intro ps' ps
      rw [List.forall₂_map_left_iff, List.forall₂_map_right_iff]
    rw [hports, map_recorded_outputs_eq hframe', map_recorded_outputs_eq hframe, ← hports]
    exact h.outputs
  case parsed =>
    rw [hstrategy, attribute?, attribute?, hattributes', hattributes]
    exact h.parsed

section Rules

/-- A finer node is visited with the same strategy. -/
theorem Refines.effectiveStrategy_eq (h : n'.Refines n) (fallback : Bool) :
    n'.effectiveStrategy fallback = n.effectiveStrategy fallback := by
  rw [effectiveStrategy, effectiveStrategy, h.strategy_eq]

theorem strategy_eq_of_effectiveStrategy {fallback : Bool}
    (h : n.effectiveStrategy fallback = .fromAttribute) : n.strategy = .fromAttribute := by
  rw [effectiveStrategy] at h
  split at h
  · cases h
  · exact h

theorem Refines.onAllOutputs (h : n'.Refines n) {s s' : Shape} (hs : s'.Refines s) :
    List.Forall₂ Shape.Refines (n'.onAllOutputs s') (n.onAllOutputs s) := by
  rw [Node.onAllOutputs, Node.onAllOutputs, h.outputs.length_eq]
  induction n.outputs.length with
  | zero => exact .nil
  | succ k ih => exact .cons hs ih

/-- What a rule makes of a finer node and finer inputs, it makes of the coarser ones, too, and the
result is coarser then. -/
theorem Refines.inferShapes (h : n'.Refines n)
    (hattribute : strategy = .fromAttribute → n.strategy = .fromAttribute)
    (hinputs : List.Forall₂ Shape.Refines inputs' inputs)
    (hok : n'.inferShapes strategy inputs' = .ok shapes') :
    ∃ shapes, n.inferShapes strategy inputs = .ok shapes ∧
      List.Forall₂ Shape.Refines shapes' shapes := by
  cases strategy with
  | recorded =>
    have hrecorded : ∀ (p' p : OutputPort) (s' : Shape),
        p'.id = p.id ∧ Option.Rel Shape.Refines p'.recorded p.recorded → p'.recorded = some s' →
        ∃ s, p.recorded = some s ∧ s'.Refines s := by
      rintro p' p s' ⟨-, hrel⟩ hs'
      rwa [hs', rel_some_left_iff] at hrel
    obtain ⟨shapes, hshapes, hrefines⟩ :=
      exists_forall₂_of_step hrecorded h.outputs (recordedShapes_eq_ok_iff.1 hok)
    exact ⟨shapes, recordedShapes_eq_ok_iff.2 hshapes, hrefines⟩
  | identity =>
    obtain ⟨first', rest', rfl, rfl⟩ := identityShapes_eq_ok_iff.1 hok
    obtain ⟨first, rest, hfirst, -, rfl⟩ := List.forall₂_cons_left_iff.1 hinputs
    exact ⟨_, identityShapes_eq_ok_iff.2 ⟨first, rest, rfl, rfl⟩, h.onAllOutputs hfirst⟩
  | broadcast =>
    obtain ⟨first', rest', s', rfl, hs', rfl⟩ := broadcastShapes_eq_ok_iff.1 hok
    obtain ⟨first, rest, hfirst, hrest, rfl⟩ := List.forall₂_cons_left_iff.1 hinputs
    obtain ⟨s, hs, hrefines⟩ := hfirst.foldlM_broadcast? hrest hs'
    exact ⟨_, broadcastShapes_eq_ok_iff.2 ⟨first, rest, s, rfl, hs, rfl⟩, h.onAllOutputs hrefines⟩
  | fromAttribute =>
    simp only [Node.inferShapes, attributeShapes_eq_ok_iff] at hok ⊢
    obtain ⟨text', s', htext', hs', rfl⟩ := hok
    obtain ⟨text, s, htext, hs, hrefines⟩ := h.parsed (hattribute rfl) text' s' htext' hs'
    exact ⟨_, ⟨text, s, htext, hs, rfl⟩, h.onAllOutputs hrefines⟩
  | unspecified => cases hok

/-- What passes verification at the finer node passes it at the coarser one: less is known there,
and so less can contradict. -/
theorem Refines.checkOutputs (h : n'.Refines n)
    (hshapes : List.Forall₂ Shape.Refines shapes' shapes)
    (hok : n'.checkOutputs shapes' = .ok ()) : n.checkOutputs shapes = .ok () := by
  rw [checkOutputs_eq_ok_iff] at hok ⊢
  intro p s hps r hr
  obtain ⟨⟨p', s'⟩, hps', ⟨-, hrecorded⟩, hs⟩ :=
    exists_mem_of_forall₂ (forall₂_zip_zip h.outputs hshapes).flip (p, s) hps
  rw [hr, rel_some_right_iff] at hrecorded
  obtain ⟨r', hr', hrefines⟩ := hrecorded
  exact hs.compatible hrefines (hok p' s' hps' r' hr')

end Rules

end Node

namespace Graph

variable {g g' h h' : Graph} {n n' : Node} {options : InferOptions} {shapes' : List Shape}
  {report : InferReport}

/-- The same nodes and edges, where the nodes of the first graph refine those of the second. -/
structure Refines (g' g : Graph) : Prop where
  node : ∀ id, Option.Rel Node.Refines (g'.node? id) (g.node? id)
  edge : ∀ e, e ∈ g'.edges ↔ e ∈ g.edges

theorem Refines.of_sameFrame (h₀ : g'.Refines g) (hgh' : SameFrame g' h') (hgh : SameFrame g h) :
    h'.Refines h := by
  constructor
  case edge =>
    intro e
    rw [← hgh'.edges_eq, ← hgh.edges_eq, h₀.edge]
  case node =>
    intro id
    cases hn' : h'.node? id with
    | none =>
      cases hn : h.node? id with
      | none => exact .none
      | some n =>
        obtain ⟨m, hm, -⟩ := hgh.symm.exists_node? hn
        obtain ⟨m', hm', -⟩ := rel_some_right_iff.1 (hm ▸ h₀.node id)
        obtain ⟨n', hn'', -⟩ := hgh'.exists_node? hm'
        rw [hn'] at hn''
        cases hn''
    | some n' =>
      obtain ⟨m', hm', hframe'⟩ := hgh'.symm.exists_node? hn'
      obtain ⟨m, hm, hrefines⟩ := rel_some_left_iff.1 (hm' ▸ h₀.node id)
      obtain ⟨n, hn, hframe⟩ := hgh.exists_node? hm
      rw [hn]
      exact .some (hrefines.of_withoutShapes hframe'.symm hframe)

/-- Finer graphs have the same links. -/
theorem Refines.links_iff (h : g'.Refines g) (u v : NodeId) :
    (u, v) ∈ g'.links ↔ (u, v) ∈ g.links := by
  simp only [mem_links_iff, h.edge]

/-- So there is a cycle in both graphs or in neither. -/
theorem Refines.hasCycle_iff (h : g'.Refines g) : HasCycle g'.links ↔ HasCycle g.links := by
  have hlinked : Linked g'.links = Linked g.links := by
    funext u v
    exact propext (h.links_iff u v)
  rw [HasCycle, HasCycle, hlinked]

theorem Refines.exists_node?_iff (h : g'.Refines g) (id : NodeId) :
    (∃ n, g'.node? id = some n) ↔ ∃ n, g.node? id = some n := by
  constructor
  · rintro ⟨n', hn'⟩
    obtain ⟨n, hn, -⟩ := rel_some_left_iff.1 (hn' ▸ h.node id)
    exact ⟨n, hn⟩
  · rintro ⟨n, hn⟩
    obtain ⟨n', hn', -⟩ := rel_some_right_iff.1 (hn ▸ h.node id)
    exact ⟨n', hn'⟩

theorem Refines.strategiesOf_eq (h : g'.Refines g) (ids : List NodeId) :
    g'.strategiesOf ids = g.strategiesOf ids := by
  have hstrategy : ∀ id, (g'.node? id).map Node.strategy = (g.node? id).map Node.strategy := by
    intro id
    have hrel := h.node id
    generalize g'.node? id = o', g.node? id = o at hrel
    cases hrel with
    | some hrefines => exact congrArg some hrefines.strategy_eq
    | none => rfl
  simp only [strategiesOf, hstrategy]

section Visit

/-- If the shapes at the sources of a node are finer, so are those that arrive at its inputs. -/
theorem Refines.arriving? (h : g'.Refines g) (hg' : g'.WellFormed) (hg : g.WellFormed) {id : NodeId}
    (hfed : ∀ e ∈ g.edges, e.target.node = id →
      Option.Rel Shape.Refines (g'.shapeAt? e.source) (g.shapeAt? e.source)) (port : PortId) :
    Option.Rel Shape.Refines (g'.arriving? id port) (g.arriving? id port) := by
  have hproducer : g'.producer? id port = g.producer? id port := by
    ext e
    rw [hg'.producer?_eq_some_iff, hg.producer?_eq_some_iff, h.edge]
  simp only [Graph.arriving?, hproducer]
  cases he : g.producer? id port with
  | none => exact .none
  | some e =>
    obtain ⟨hmem, htarget⟩ := hg.producer?_eq_some_iff.1 he
    exact hfed e hmem (by rw [htarget])

/-- If shapes arrive at all inputs of the finer node, coarser ones arrive at those of the coarser
node. -/
theorem gatherInputs_refines (hn : n'.Refines n) (harriving : ∀ port,
      Option.Rel Shape.Refines (g'.arriving? n'.id port) (g.arriving? n.id port))
    (hok : g'.gatherInputs n' = .ok shapes') :
    ∃ shapes, g.gatherInputs n = .ok shapes ∧ List.Forall₂ Shape.Refines shapes' shapes := by
  have hstep : ∀ (p' p : InputPort) (s' : Shape),
      p'.id = p.id ∧ Option.Rel Shape.Refines p'.recorded p.recorded →
      g'.arriving? n'.id p'.id = some s' →
      ∃ s, g.arriving? n.id p.id = some s ∧ s'.Refines s := by
    rintro p' p s' ⟨hid, -⟩ hs'
    exact rel_some_left_iff.1 (hs' ▸ hid ▸ harriving p'.id)
  obtain ⟨shapes, hshapes, hrefines⟩ :=
    exists_forall₂_of_step hstep hn.inputs (gatherInputs_eq_ok_iff.1 hok)
  exact ⟨shapes, gatherInputs_eq_ok_iff.2 hshapes, hrefines⟩

theorem checkInputs_refines (hn : n'.Refines n) (harriving : ∀ port,
      Option.Rel Shape.Refines (g'.arriving? n'.id port) (g.arriving? n.id port))
    (hok : g'.checkInputs n' = .ok ()) : g.checkInputs n = .ok () := by
  rw [checkInputs_eq_ok_iff] at hok ⊢
  intro p hp r s hr hs
  obtain ⟨p', hp', hid, hrecorded⟩ := exists_mem_of_forall₂ hn.inputs.flip p hp
  obtain ⟨r', hr', hrefines⟩ := rel_some_right_iff.1 (hr ▸ hrecorded)
  obtain ⟨s', hs', harrived⟩ := rel_some_right_iff.1 (hs ▸ harriving p.id)
  exact harrived.compatible hrefines (hok p' hp' r' s' hr' (hid ▸ hs'))

/-- A visit that succeeds at a refined node succeeds at the coarser one, if what feeds them stands
in the same relation, and finds coarser shapes. -/
theorem Refines.shapesOf (h : g'.Refines g) (hg' : g'.WellFormed) (hg : g.WellFormed)
    (hn : n'.Refines n) (hfed : ∀ e ∈ g.edges, e.target.node = n.id →
      Option.Rel Shape.Refines (g'.shapeAt? e.source) (g.shapeAt? e.source))
    (hok : g'.shapesOf options n' = .ok shapes') :
    ∃ shapes, g.shapesOf options n = .ok shapes ∧ List.Forall₂ Shape.Refines shapes' shapes := by
  have harriving : ∀ port,
      Option.Rel Shape.Refines (g'.arriving? n'.id port) (g.arriving? n.id port) := by
    rw [hn.id_eq]
    exact h.arriving? hg' hg hfed
  obtain ⟨inputs', hinputs', hcheck', hshapes', houtputs'⟩ := shapesOf_eq_ok_iff.1 hok
  rw [hn.effectiveStrategy_eq] at hinputs' hcheck' hshapes' houtputs'
  have hgathered : ∃ inputs, List.Forall₂ Shape.Refines inputs' inputs ∧
      if (n.effectiveStrategy options.fallbackToRecorded).readsInputs then
        g.gatherInputs n = .ok inputs else inputs = [] := by
    split at hinputs'
    next hreads =>
      obtain ⟨inputs, hinputs, hrefines⟩ := gatherInputs_refines hn harriving hinputs'
      exact ⟨inputs, hrefines, by rwa [if_pos hreads]⟩
    next hreads =>
      subst hinputs'
      exact ⟨[], .nil, by rw [if_neg hreads]⟩
  obtain ⟨inputs, hrefines, hinputs⟩ := hgathered
  obtain ⟨shapes, hshapes, hfound⟩ :=
    hn.inferShapes Node.strategy_eq_of_effectiveStrategy hrefines hshapes'
  refine ⟨shapes, shapesOf_eq_ok_iff.2 ⟨inputs, hinputs, ?_, hshapes, ?_⟩, hfound⟩
  · intro hverify
    exact checkInputs_refines hn harriving (hcheck' hverify)
  · intro hverify
    exact hn.checkOutputs hfound (houtputs' hverify)

end Visit

section Run

/-- A visit finds coarser shapes than those that a finished run on a refined graph has left. -/
theorem Refines.exists_shapesOf {g₀ : Graph} {order : List NodeId} (h : g'.Refines g)
    (hg' : g'.WellFormed) (hg : g.WellFormed) (horder : g₀.IsOrder order)
    (hdone : Progress options g₀ order g' report) (hn : g.node? n.id = some n)
    (hfed : ∀ e ∈ g.edges, e.target.node = n.id →
      Option.Rel Shape.Refines (g'.shapeAt? e.source) (g.shapeAt? e.source)) :
    ∃ shapes, g.shapesOf options n = .ok shapes ∧ List.Forall₂
      (fun p s => ∃ s', g'.shapeAt? ⟨n.id, p.id⟩ = some s' ∧ s'.Refines s) n.outputs shapes := by
  obtain ⟨n', hn', hnode⟩ := rel_some_right_iff.1 (hn ▸ h.node n.id)
  obtain ⟨shapes', hshapes', houtputs'⟩ := hdone.exists_shapesOf horder hn'
  obtain ⟨shapes, hshapes, hfound⟩ := h.shapesOf hg' hg hnode hfed hshapes'
  refine ⟨shapes, hshapes, ?_⟩
  refine forall₂_of_square ?_ hnode.outputs (hg'.forall₂_shapeAt? hn' houtputs') hfound
  rintro p' p s' s ⟨hid, -⟩ hs' hss'
  exact ⟨s', hid ▸ hs', hss'⟩

/-- If a run succeeds on a graph that refines another, be it with or without fallback to the
recorded shapes and with or without comparison to them, then it succeeds on the other graph and
counts the same, and every shape it finds in the first refines that at the same port of the
other. -/
theorem inferShapes_refines (hg' : g'.Reachable) (hg : g.Reachable) (h : g'.Refines g)
    (options : InferOptions) (hrun : (g'.inferShapes options).result = .ok report) :
    (g.inferShapes options).result = .ok report ∧ ∀ t, g.IsOutput t →
      ∃ s' s, (g'.inferShapes options).graph.shapeAt? t = some s' ∧
        (g.inferShapes options).graph.shapeAt? t = some s ∧ s'.Refines s := by
  have hwf' : g'.WellFormed := hg'.wellFormed
  have hwf : g.WellFormed := hg.wellFormed
  obtain ⟨hacyclic', order', horder', hdone'⟩ := exists_progress_of_ok hwf' hrun
  have hacyclic : ¬ HasCycle g.links := fun hcycle => hacyclic' (h.hasCycle_iff.2 hcycle)
  generalize (g'.inferShapes options).graph = h' at hdone'
  -- all that is said of shapes of the coarser graph is that those left in `h'` refine them
  let P : Terminal → Shape → Prop := fun t s => ∃ s', h'.shapeAt? t = some s' ∧ s'.Refines s
  have hvisit : ∀ k n, SameFrame g k → k.node? n.id = some n →
      (∀ e ∈ g.edges, e.target.node = n.id →
        ∃ s, k.shapeAt? e.source = some s ∧ P e.source s) →
      ∃ shapes, k.shapesOf options n = .ok shapes ∧
        List.Forall₂ (fun p s => P ⟨n.id, p.id⟩ s) n.outputs shapes := by
    intro k n hgk hn hfed
    refine (h.of_sameFrame hdone'.sameFrame hgk).exists_shapesOf
      (hwf'.of_sameFrame hdone'.sameFrame) (hwf.of_sameFrame hgk) horder' hdone' hn ?_
    intro e he htarget
    obtain ⟨s, hs, s', hs', hss'⟩ := hfed e (hgk.edges_eq ▸ he) htarget
    rw [hs, hs']
    exact .some hss'
  obtain ⟨report', hrun', hshape⟩ := exists_report_of_forall_visit hwf hacyclic hvisit
  obtain ⟨-, order, horder, hdone⟩ := exists_progress_of_ok hwf hrun'
  have hperm : order.Perm order' := (horder'.perm horder h.exists_node?_iff).symm
  have hreport : report' = report := by
    rw [hdone.report_eq, hdone'.report_eq, h.strategiesOf_eq]
    exact InferReport.ofStrategies_perm (hperm.filterMap _)
  refine ⟨hreport ▸ hrun', fun t ht => ?_⟩
  obtain ⟨s, hs, s', hs', hss'⟩ := hshape t ht
  exact ⟨s', s, hs', hs, hss'⟩

/-- A node with the given input ports and one output, whose recorded shape has the given inner
dimension. -/
def rowsOf (d : Dim) (id : NodeId) (ports : List PortId) (strategy : Strategy) : Node :=
  ⟨id, "", "", none, .empty, ports.map fun p => ⟨p, none⟩,
    [⟨0, none, some ⟨[.fixed 3, d]⟩, none⟩], strategy⟩

/-- A node with a recorded shape and a node that hands it on, with one dimension left open. -/
def relay (d : Dim) : Graph :=
  (empty "relay" 1).performAll
    [.addNode (rowsOf d 0 [] .recorded), .addNode (rowsOf d 1 [0] .identity),
      .addEdge ⟨⟨0, 0⟩, ⟨1, 0⟩⟩]

theorem node?_relay (d : Dim) (id : NodeId) : (relay d).node? id =
    if id = 1 then some (rowsOf d 1 [0] .identity)
    else if id = 0 then some (rowsOf d 0 [] .recorded) else none := by
  have hrelay : (relay d).nodes = (((empty "relay" 1).setNode 0 (rowsOf d 0 [] .recorded)).setNode 1
      (rowsOf d 1 [0] .identity)).nodes := rfl
  rw [node?, hrelay, ← node?, node?_setNode, node?_setNode]
  rfl

/-- A node of such a graph is finer if its dimension is. -/
theorem rowsOf_refines {d d' : Dim} (hd : d'.Refines d) (id : NodeId) (ports : List PortId)
    {strategy : Strategy} (hstrategy : strategy ≠ .fromAttribute) :
    (rowsOf d' id ports strategy).Refines (rowsOf d id ports strategy) where
  id_eq := rfl
  strategy_eq := rfl
  inputs := by
    refine List.forall₂_same.2 fun p hp => ⟨rfl, ?_⟩
    obtain ⟨port, -, rfl⟩ := List.mem_map.1 hp
    exact .none
  outputs := .cons ⟨rfl, .some (.cons (Dim.Refines.refl _) (.cons hd .nil))⟩ .nil
  parsed h := absurd h hstrategy

theorem relay_refines {d d' : Dim} (hd : d'.Refines d) : (relay d').Refines (relay d) where
  node id := by
    rw [node?_relay, node?_relay]
    split
    · exact .some (rowsOf_refines hd 1 [0] (by decide))
    · split
      · exact .some (rowsOf_refines hd 0 [] (by decide))
      · exact .none
  edge e := Iff.rfl

/-- A run with verification, with an extent and without it. -/
theorem inferShapes_relay_refines : (relay (.fixed 2)).Refines (relay .dynamic) ∧
    ((relay (.fixed 2)).inferShapes ⟨false, true⟩).result = .ok ⟨2, 1, 1, 0⟩ ∧
    ((relay .dynamic).inferShapes ⟨false, true⟩).result = .ok ⟨2, 1, 1, 0⟩ ∧
    ∀ t, (relay .dynamic).IsOutput t →
      ∃ s' s, ((relay (.fixed 2)).inferShapes ⟨false, true⟩).graph.shapeAt? t = some s' ∧
        ((relay .dynamic).inferShapes ⟨false, true⟩).graph.shapeAt? t = some s ∧ s'.Refines s := by
  have hrefines : (relay (.fixed 2)).Refines (relay .dynamic) := relay_refines (Or.inl rfl)
  have hrun : ((relay (.fixed 2)).inferShapes ⟨false, true⟩).result = .ok ⟨2, 1, 1, 0⟩ := by decide
  exact ⟨hrefines, hrun, inferShapes_refines ⟨_, _, _, rfl⟩ ⟨_, _, _, rfl⟩ hrefines _ hrun⟩

end Run

end Graph

end OpGraph
