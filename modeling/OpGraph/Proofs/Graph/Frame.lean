import OpGraph.Inference.Run
import OpGraph.Proofs.Dictionary

/-!
# The frame of a graph

The frame of a graph is all of it but the inferred shapes. Storing or forgetting shapes stays within
one frame, and so does a whole run of shape inference, whether it succeeds or fails. A graph is
determined by its frame and the shapes at its outputs.
-/

namespace OpGraph

namespace Node

variable {n m : Node}

@[simp] theorem withoutShapes_withoutShapes (n : Node) :
    n.withoutShapes.withoutShapes = n.withoutShapes := by
  simp only [withoutShapes, List.map_map, Function.comp_def]

/-- Output ports that agree but for their shapes, and agree in these, are the same. -/
theorem outputs_eq_of_map {ps qs : List OutputPort}
    (hframe : ps.map (fun p => { p with shape := none }) =
      qs.map (fun q => { q with shape := none }))
    (hshapes : ps.map OutputPort.shape = qs.map OutputPort.shape) : ps = qs := by
  induction ps generalizing qs with
  | nil => exact (List.map_eq_nil_iff.1 hframe.symm).symm
  | cons p ps ih =>
    cases qs with
    | nil => simp at hframe
    | cons q qs =>
      simp only [List.map_cons, List.cons.injEq] at hframe hshapes
      obtain ⟨hpq, hrest⟩ := hframe
      obtain ⟨hshape, hshapes⟩ := hshapes
      obtain ⟨id, elementType, recorded, shape⟩ := p
      obtain ⟨id', elementType', recorded', shape'⟩ := q
      simp only [OutputPort.mk.injEq, and_true] at hpq
      simp only at hshape
      obtain ⟨rfl, rfl, rfl⟩ := hpq
      subst hshape
      rw [ih hrest hshapes]

/-- A node is determined by its frame and its shapes. -/
theorem eq_of_withoutShapes (hframe : n.withoutShapes = m.withoutShapes)
    (hshapes : n.outputShapes = m.outputShapes) : n = m := by
  cases n
  cases m
  simp only [withoutShapes, Node.mk.injEq] at hframe
  obtain ⟨rfl, rfl, rfl, rfl, rfl, rfl, houtputs, rfl⟩ := hframe
  rw [outputs_eq_of_map houtputs hshapes]

theorem length_outputs_eq (hframe : n.withoutShapes = m.withoutShapes) :
    n.outputs.length = m.outputs.length := by
  simpa [withoutShapes] using congrArg (fun k => k.outputs.length) hframe

theorem map_id_outputs_eq (hframe : n.withoutShapes = m.withoutShapes) :
    n.outputs.map OutputPort.id = m.outputs.map OutputPort.id := by
  simpa [withoutShapes, Function.comp_def] using
    congrArg (fun k => k.outputs.map OutputPort.id) hframe

theorem map_recorded_outputs_eq (hframe : n.withoutShapes = m.withoutShapes) :
    n.outputs.map (fun p => (p.id, p.recorded)) = m.outputs.map (fun p => (p.id, p.recorded)) := by
  simpa [withoutShapes, Function.comp_def] using
    congrArg (fun k => k.outputs.map fun p => (p.id, p.recorded)) hframe

/-- The node with given shapes is the one of the same frame that holds them. -/
theorem withShapes?_eq_some_iff {shapes : List Shape} : n.withShapes? shapes = some m ↔
    m.withoutShapes = n.withoutShapes ∧ m.outputShapes = shapes.map some := by
  have hstored : ∀ k, n.withShapes? shapes = some k →
      k.withoutShapes = n.withoutShapes ∧ k.outputShapes = shapes.map some := by
    intro k hk
    simp only [withShapes?, Option.ite_none_right_eq_some, Option.some.injEq] at hk
    obtain ⟨hlength, rfl⟩ := hk
    constructor
    · simp only [withoutShapes, Node.mk.injEq, and_true, true_and]
      refine List.ext_getElem (by simp [hlength]) ?_
      simp
    · refine List.ext_getElem (by simp [outputShapes, hlength]) ?_
      simp [outputShapes]
  refine ⟨hstored m, ?_⟩
  rintro ⟨hframe, hshapes⟩
  have hlength : shapes.length = n.outputs.length := by
    rw [← length_outputs_eq hframe]
    simpa [outputShapes] using (congrArg List.length hshapes).symm
  obtain ⟨k, hk⟩ : ∃ k, n.withShapes? shapes = some k := by simp [withShapes?, hlength]
  obtain ⟨hkframe, hkshapes⟩ := hstored k hk
  rw [hk, eq_of_withoutShapes (hkframe.trans hframe.symm) (hkshapes.trans hshapes.symm)]

end Node

namespace Graph

/-- The graph without any inferred shapes. -/
def withoutShapes (g : Graph) : Graph := { g with nodes := g.nodes.map Node.withoutShapes }

/-- Two graphs differ at most in inferred shapes. -/
def SameFrame (g h : Graph) : Prop := g.withoutShapes = h.withoutShapes

/-- The graph with a node stored under a number. -/
def setNode (g : Graph) (id : NodeId) (n : Node) : Graph := { g with nodes := g.nodes.set id n }

variable {g h k : Graph} {id : NodeId} {n m : Node}

theorem node?_setNode (g : Graph) (id id' : NodeId) (n : Node) :
    (g.setNode id n).node? id' = if id' = id then some n else g.node? id' :=
  Dictionary.get?_set _ _ _ _

theorem node?_withoutShapes (g : Graph) (id : NodeId) :
    g.withoutShapes.node? id = (g.node? id).map Node.withoutShapes :=
  Dictionary.get?_map _ _ _

/-- A graph consists of its name, version and edges with their index, and of what is found under
each number. -/
theorem ext_node? (hname : g.name = h.name) (hversion : g.version = h.version)
    (hedges : g.edges = h.edges) (hfeeds : g.feeds = h.feeds)
    (hnode : ∀ id, g.node? id = h.node? id) : g = h := by
  cases g
  cases h
  simp only [Graph.mk.injEq]
  exact ⟨hname, hversion, Dictionary.ext_get? hnode, hedges, hfeeds⟩

namespace SameFrame

@[refl] theorem refl (g : Graph) : SameFrame g g := rfl

theorem symm (hgh : SameFrame g h) : SameFrame h g := Eq.symm hgh

theorem trans (hgh : SameFrame g h) (hhk : SameFrame h k) : SameFrame g k := Eq.trans hgh hhk

theorem name_eq (hgh : SameFrame g h) : g.name = h.name := (congrArg Graph.name hgh :)

theorem version_eq (hgh : SameFrame g h) : g.version = h.version := (congrArg Graph.version hgh :)

theorem edges_eq (hgh : SameFrame g h) : g.edges = h.edges := (congrArg Graph.edges hgh :)

theorem feeds_eq (hgh : SameFrame g h) : g.feeds = h.feeds := (congrArg Graph.feeds hgh :)

theorem nodeIds_eq (hgh : SameFrame g h) : g.nodeIds = h.nodeIds := by
  have hkeys := congrArg Graph.nodeIds hgh
  simpa [withoutShapes, nodeIds, Dictionary.keys_map] using hkeys

theorem producer?_eq (hgh : SameFrame g h) : g.producer? = h.producer? := by
  funext node port
  simp only [producer?, hgh.feeds_eq, hgh.edges_eq]

theorem topologicalOrder_eq (hgh : SameFrame g h) : g.topologicalOrder = h.topologicalOrder := by
  simp only [topologicalOrder, hgh.nodeIds_eq, hgh.edges_eq]

/-- The nodes of graphs with one frame agree but for their shapes. -/
theorem node?_map_eq (hgh : SameFrame g h) (id : NodeId) :
    (g.node? id).map Node.withoutShapes = (h.node? id).map Node.withoutShapes := by
  rw [← node?_withoutShapes, ← node?_withoutShapes, hgh]

/-- What is stored in one graph is stored in the other, up to shapes. -/
theorem exists_node? (hgh : SameFrame g h) (hn : g.node? id = some n) :
    ∃ m, h.node? id = some m ∧ m.withoutShapes = n.withoutShapes := by
  have hmap := hgh.node?_map_eq id
  rw [hn, Option.map_some, eq_comm, Option.map_eq_some_iff] at hmap
  exact hmap

theorem node?_eq_none (hgh : SameFrame g h) (hn : g.node? id = none) : h.node? id = none := by
  have hmap := hgh.node?_map_eq id
  rw [hn] at hmap
  exact Option.map_eq_none_iff.1 hmap.symm

/-- A graph is determined by its frame and its shapes. -/
theorem eq_of_outputShapes (hgh : SameFrame g h)
    (hshapes : ∀ id n m, g.node? id = some n → h.node? id = some m →
      n.outputShapes = m.outputShapes) : g = h := by
  refine ext_node? hgh.name_eq hgh.version_eq hgh.edges_eq hgh.feeds_eq fun id => ?_
  cases hn : g.node? id with
  | some n =>
    obtain ⟨m, hm, hframe⟩ := hgh.exists_node? hn
    rw [hm, Node.eq_of_withoutShapes hframe.symm (hshapes id n m hn hm)]
  | none => exact (hgh.node?_eq_none hn).symm

end SameFrame

/-- Replacing a node by one that differs in shapes only keeps the frame. -/
theorem sameFrame_setNode (hn : g.node? id = some n)
    (hframe : m.withoutShapes = n.withoutShapes) : SameFrame g (g.setNode id m) := by
  simp only [SameFrame, withoutShapes, setNode]
  rw [Dictionary.map_set_of_get? hn hframe]

section Operations

variable {shapes : List Shape}

/-- Shapes are stored exactly if there is such a node and there are as many as it has outputs. -/
theorem setOutputShapes_eq_ok_iff : g.setOutputShapes id shapes = .ok h ↔
    ∃ n m, g.node? id = some n ∧ m.withoutShapes = n.withoutShapes ∧
      m.outputShapes = shapes.map some ∧ h = g.setNode id m := by
  simp only [setOutputShapes, throw, throwThe, MonadExceptOf.throw, pure, Except.pure]
  cases hn : g.node? id with
  | none => simp
  | some n =>
    dsimp only
    cases hm : n.withShapes? shapes with
    | none =>
      simp only [reduceCtorEq, Option.some.injEq, false_iff, not_exists, not_and]
      rintro n' m rfl hframe hshapes
      have hsome := Node.withShapes?_eq_some_iff.2 ⟨hframe, hshapes⟩
      simp [hm] at hsome
    | some m =>
      obtain ⟨hframe, hshapes⟩ := Node.withShapes?_eq_some_iff.1 hm
      simp only [Except.ok.injEq, Option.some.injEq]
      constructor
      · rintro rfl
        exact ⟨n, m, rfl, hframe, hshapes, rfl⟩
      · rintro ⟨n', m', rfl, hframe', hshapes', rfl⟩
        rw [Node.eq_of_withoutShapes (hframe.trans hframe'.symm) (hshapes.trans hshapes'.symm)]
        rfl

/-- Shapes can be forgotten exactly if the node is stored. -/
theorem clearOutputShapes_eq_ok_iff : g.clearOutputShapes id = .ok h ↔
    ∃ n, g.node? id = some n ∧ h = g.setNode id n.withoutShapes := by
  simp only [clearOutputShapes, throw, throwThe, MonadExceptOf.throw, pure, Except.pure]
  cases hn : g.node? id with
  | none => simp
  | some n => simp [setNode, eq_comm]

theorem sameFrame_setOutputShapes (hset : g.setOutputShapes id shapes = .ok h) :
    SameFrame g h := by
  obtain ⟨n, m, hn, hframe, -, rfl⟩ := setOutputShapes_eq_ok_iff.1 hset
  exact sameFrame_setNode hn hframe

theorem sameFrame_clearOutputShapes (hclear : g.clearOutputShapes id = .ok h) :
    SameFrame g h := by
  obtain ⟨n, hn, rfl⟩ := clearOutputShapes_eq_ok_iff.1 hclear
  exact sameFrame_setNode hn (Node.withoutShapes_withoutShapes n)

end Operations

section Inference

variable {options : InferOptions} {report report' : InferReport}

/-- A visit finds the shapes of a stored node and stores them. -/
theorem visit_eq_ok_iff : g.visit options report id = .ok (h, report') ↔
    ∃ n shapes, g.node? id = some n ∧ g.shapesOf options n = .ok shapes ∧
      g.setOutputShapes id shapes = .ok h ∧
      report' = report.count n (n.effectiveStrategy options.fallbackToRecorded) := by
  simp only [visit, bind, Except.bind, throw, throwThe, MonadExceptOf.throw, pure, Except.pure]
  cases hn : g.node? id with
  | none => simp
  | some n =>
    simp only [Option.some.injEq, exists_and_left, exists_eq_left']
    cases hshapes : g.shapesOf options n with
    | error e => simp
    | ok shapes =>
      simp only [Except.ok.injEq, exists_eq_left']
      cases hset : g.setOutputShapes id shapes with
      | error e => simp [Except.mapError]
      | ok h' => simp [Except.mapError, eq_comm]

/-- A visit writes shapes and nothing else. -/
theorem sameFrame_visit (hvisit : g.visit options report id = .ok (h, report')) :
    SameFrame g h := by
  obtain ⟨n, shapes, -, -, hset, -⟩ := visit_eq_ok_iff.1 hvisit
  exact sameFrame_setOutputShapes hset

/-- A run writes shapes and nothing else, whether it fails or not. The induction is on the nodes
still to be visited. -/
theorem sameFrame_visitAll (options : InferOptions) (order : List NodeId) (g : Graph)
    (report : InferReport) : SameFrame g (visitAll options order g report).graph := by
  induction order generalizing g report with
  | nil => rfl
  | cons id rest ih =>
    rw [visitAll]
    split
    next g' report' hvisit => exact (sameFrame_visit hvisit).trans (ih g' report')
    · rfl

/-- A run of inference changes nothing but inferred shapes, also when it fails. -/
theorem sameFrame_inferShapes (g : Graph) (options : InferOptions) :
    SameFrame g (g.inferShapes options).graph := by
  rw [inferShapes]
  split
  · exact sameFrame_visitAll options _ g {}
  · rfl

end Inference

end Graph

end OpGraph
