import OpGraph.Proofs.Graph.Frame
import Mathlib.Data.List.Nodup

/-!
# Well-formed graphs

A graph keeps its edges twice, as a list and as an index from input ports into that list, and edges
refer to nodes and ports by number. A graph is well formed when these agree: each node stands under
its own number and has distinct ports, each edge joins existing ports, and the index has one entry
for each edge. Every operation on graphs keeps this, whether it succeeds or fails.

## Main definitions

- `Graph.IsOutput`, `Graph.IsInput`: the ports of a graph
- `Graph.WellFormed`: the invariant
- `Graph.Operation`, `Graph.perform`, `Graph.Reachable`: graphs made by sequences of operations

## Main statements

- `Graph.wellFormed_performAll_empty`: whatever is done to an empty graph, it stays well formed
- `Graph.WellFormed.producer?_eq_some_iff`: the index finds the edge that enters a port
-/

namespace OpGraph

theorem Node.isSome_input?_iff {n : Node} {port : PortId} :
    (n.input? port).isSome ↔ ∃ p ∈ n.inputs, p.id = port := by
  simp [Node.input?]

theorem Node.isSome_output?_iff {n : Node} {port : PortId} :
    (n.output? port).isSome ↔ ∃ p ∈ n.outputs, p.id = port := by
  simp [Node.output?]

namespace Graph

variable {g h : Graph} {n : Node} {e : Edge}

/-- A stored node has this output port. -/
def IsOutput (g : Graph) (t : Terminal) : Prop :=
  ∃ n, g.node? t.node = some n ∧ ∃ p ∈ n.outputs, p.id = t.port

/-- A stored node has this input port. -/
def IsInput (g : Graph) (t : Terminal) : Prop :=
  ∃ n, g.node? t.node = some n ∧ ∃ p ∈ n.inputs, p.id = t.port

theorem isOutput_iff_of_node? {t : Terminal} (hn : g.node? t.node = some n) :
    g.IsOutput t ↔ (n.output? t.port).isSome := by
  simp [IsOutput, hn, Node.isSome_output?_iff]

theorem isInput_iff_of_node? {t : Terminal} (hn : g.node? t.node = some n) :
    g.IsInput t ↔ (n.input? t.port).isSome := by
  simp [IsInput, hn, Node.isSome_input?_iff]

/-- Nodes, edges and the index of edges agree. -/
structure WellFormed (g : Graph) : Prop where
  id_eq : ∀ id n, g.node? id = some n → n.id = id
  nodup_inputs : ∀ id n, g.node? id = some n → (n.inputs.map InputPort.id).Nodup
  nodup_outputs : ∀ id n, g.node? id = some n → (n.outputs.map OutputPort.id).Nodup
  isOutput_source : ∀ e ∈ g.edges, g.IsOutput e.source
  isInput_target : ∀ e ∈ g.edges, g.IsInput e.target
  nodup_targets : (g.edges.map Edge.target).Nodup
  -- the index has for each edge the entry from its target to its position, and no other
  feeds_eq : g.feeds = g.edges.mapIdx fun i e => (e.target, i)

section Index

/-- The index leads from the target of each edge to its position, and nowhere else. -/
theorem WellFormed.mem_feeds_iff (hg : g.WellFormed) {t : Terminal} {i : Nat} :
    (t, i) ∈ g.feeds ↔ ∃ e, g.edges[i]? = some e ∧ e.target = t := by
  rw [hg.feeds_eq, List.mem_mapIdx]
  constructor
  · rintro ⟨j, hj, heq⟩
    obtain ⟨rfl, rfl⟩ := Prod.mk.inj heq
    exact ⟨g.edges[j], List.getElem?_eq_getElem hj, rfl⟩
  · rintro ⟨e, he, rfl⟩
    obtain ⟨hi, rfl⟩ := List.getElem?_eq_some_iff.1 he
    exact ⟨i, hi, rfl⟩

theorem WellFormed.lookup_feeds_eq_none_iff (hg : g.WellFormed) {t : Terminal} :
    g.feeds.lookup t = none ↔ ∀ e ∈ g.edges, e.target ≠ t := by
  rw [List.lookup_eq_none_iff]
  constructor
  · rintro hnone e he rfl
    obtain ⟨i, hi⟩ := List.mem_iff_getElem?.1 he
    have hentry := hnone _ (hg.mem_feeds_iff.2 ⟨e, hi, rfl⟩)
    simp at hentry
  · rintro hnone ⟨t', i⟩ hentry
    obtain ⟨e, he, rfl⟩ := hg.mem_feeds_iff.1 hentry
    simpa using (hnone e (List.mem_of_getElem? he)).symm

/-- No two edges lead to one input port. -/
theorem WellFormed.eq_of_target_eq (hg : g.WellFormed) {e e' : Edge} (he : e ∈ g.edges)
    (he' : e' ∈ g.edges) (htarget : e.target = e'.target) : e = e' :=
  List.inj_on_of_nodup_map hg.nodup_targets he he' htarget

/-- The producer of an input port is the edge that enters it. -/
theorem WellFormed.producer?_eq_some_iff (hg : g.WellFormed) {node : NodeId} {port : PortId} :
    g.producer? node port = some e ↔ e ∈ g.edges ∧ e.target = ⟨node, port⟩ := by
  rw [producer?, Option.bind_eq_some_iff]
  constructor
  · rintro ⟨i, hlookup, he⟩
    obtain ⟨before, after, hfeeds, -⟩ := List.lookup_eq_some_iff.1 hlookup
    have hentry : (⟨node, port⟩, i) ∈ g.feeds := by simp [hfeeds]
    obtain ⟨e', he', htarget⟩ := hg.mem_feeds_iff.1 hentry
    obtain rfl : e = e' := Option.some.inj (he.symm.trans he')
    exact ⟨List.mem_of_getElem? he, htarget⟩
  · rintro ⟨he, htarget⟩
    cases hlookup : g.feeds.lookup ⟨node, port⟩ with
    | none => exact absurd htarget (hg.lookup_feeds_eq_none_iff.1 hlookup e he)
    | some i =>
      obtain ⟨before, after, hfeeds, -⟩ := List.lookup_eq_some_iff.1 hlookup
      have hentry : (⟨node, port⟩, i) ∈ g.feeds := by simp [hfeeds]
      obtain ⟨e', he', htarget'⟩ := hg.mem_feeds_iff.1 hentry
      have heq := hg.eq_of_target_eq he (List.mem_of_getElem? he') (htarget.trans htarget'.symm)
      exact ⟨i, rfl, heq ▸ he'⟩

/-- An input port is not fed if no edge leads there. -/
theorem WellFormed.producer?_eq_none_iff (hg : g.WellFormed) {node : NodeId} {port : PortId} :
    g.producer? node port = none ↔ ∀ e ∈ g.edges, e.target ≠ ⟨node, port⟩ := by
  rw [Option.eq_none_iff_forall_not_mem]
  constructor
  · intro hnone e he htarget
    exact hnone e (hg.producer?_eq_some_iff.2 ⟨he, htarget⟩)
  · intro hnone e he
    obtain ⟨hmem, htarget⟩ := hg.producer?_eq_some_iff.1 he
    exact hnone e hmem htarget

end Index

section Shapes

theorem outputShapes_eq_iff {shapes : List Shape} : n.outputShapes = shapes.map some ↔
    List.Forall₂ (fun p s => p.shape = some s) n.outputs shapes := by
  rw [Node.outputShapes, ← List.forall₂_eq_eq_eq, List.forall₂_map_left_iff,
    List.forall₂_map_right_iff]

/-- Distinct numbers make the shape at an output port that of the port itself. -/
theorem WellFormed.shapeAt?_eq (hg : g.WellFormed) {id : NodeId} (hn : g.node? id = some n)
    {p : OutputPort} (hp : p ∈ n.outputs) : g.shapeAt? ⟨id, p.id⟩ = p.shape := by
  obtain ⟨q, hq⟩ := Option.isSome_iff_exists.1 (Node.isSome_output?_iff.2 ⟨p, hp, rfl⟩)
  have hid : q.id = p.id := by simpa using List.find?_some hq
  obtain rfl : q = p :=
    List.inj_on_of_nodup_map (hg.nodup_outputs id n hn) (List.mem_of_find?_eq_some hq) hp hid
  simp [shapeAt?, hn, hq]

/-- The shapes on the outputs of a stored node are found at its ports, since their numbers are
distinct. -/
theorem WellFormed.outputShapes_eq (hg : g.WellFormed) {id : NodeId} (hn : g.node? id = some n) :
    n.outputShapes = (n.outputs.map OutputPort.id).map fun port => g.shapeAt? ⟨id, port⟩ := by
  rw [Node.outputShapes, List.map_map]
  exact List.map_congr_left fun p hp => (hg.shapeAt?_eq hn hp).symm

/-- Two graphs have the same node under a number if its frame is the same and the shapes at its
outputs are. -/
theorem WellFormed.eq_of_shapeAt? (hg : g.WellFormed) (hh : h.WellFormed) {id : NodeId} {m : Node}
    (hn : g.node? id = some n) (hm : h.node? id = some m)
    (hframe : n.withoutShapes = m.withoutShapes)
    (hshape : ∀ p ∈ n.outputs, g.shapeAt? ⟨id, p.id⟩ = h.shapeAt? ⟨id, p.id⟩) : n = m := by
  refine Node.eq_of_withoutShapes hframe ?_
  rw [hg.outputShapes_eq hn, hh.outputShapes_eq hm, ← Node.map_id_outputs_eq hframe]
  refine List.map_congr_left fun port hport => ?_
  obtain ⟨p, hp, rfl⟩ := List.mem_map.1 hport
  exact hshape p hp

/-- Where the outputs of a stored node have shapes, these are found at its ports. -/
theorem WellFormed.forall₂_shapeAt? (hg : g.WellFormed) {id : NodeId} (hn : g.node? id = some n)
    {shapes : List Shape} (houtputs : n.outputShapes = shapes.map some) :
    List.Forall₂ (fun p s => g.shapeAt? ⟨id, p.id⟩ = some s) n.outputs shapes := by
  refine List.forall₂_iff_zip.2 ⟨(outputShapes_eq_iff.1 houtputs).length_eq, ?_⟩
  intro p s hps
  rw [hg.shapeAt?_eq hn (List.of_mem_zip hps).1]
  exact (List.forall₂_iff_zip.1 (outputShapes_eq_iff.1 houtputs)).2 hps

/-- The shapes of a stored node, read at the ports of a node of the same frame. -/
theorem WellFormed.forall₂_shapeAt?_of_frame (hg : g.WellFormed) {id : NodeId} {m : Node}
    (hm : g.node? id = some m) (hframe : n.withoutShapes = m.withoutShapes) {shapes : List Shape}
    (houtputs : m.outputShapes = shapes.map some) :
    List.Forall₂ (fun p s => g.shapeAt? ⟨id, p.id⟩ = some s) n.outputs shapes := by
  have hports : List.Forall₂ (fun port s => g.shapeAt? ⟨id, port⟩ = some s)
      (m.outputs.map OutputPort.id) shapes :=
    List.forall₂_map_left_iff.2 (hg.forall₂_shapeAt? hm houtputs)
  rw [← Node.map_id_outputs_eq hframe] at hports
  exact List.forall₂_map_left_iff.1 hports

end Shapes

section Frames

theorem SameFrame.isOutput_iff (hgh : SameFrame g h) (t : Terminal) :
    g.IsOutput t ↔ h.IsOutput t := by
  have hforward : ∀ {g h : Graph}, SameFrame g h → g.IsOutput t → h.IsOutput t := by
    rintro g h hgh ⟨n, hn, p, hp, hport⟩
    obtain ⟨m, hm, hframe⟩ := hgh.exists_node? hn
    have hid : t.port ∈ m.outputs.map OutputPort.id := by
      rw [Node.map_id_outputs_eq hframe, ← hport]
      exact List.mem_map_of_mem hp
    obtain ⟨q, hq, hqid⟩ := List.mem_map.1 hid
    exact ⟨m, hm, q, hq, hqid⟩
  exact ⟨hforward hgh, hforward hgh.symm⟩

theorem SameFrame.isInput_iff (hgh : SameFrame g h) (t : Terminal) :
    g.IsInput t ↔ h.IsInput t := by
  have hforward : ∀ {g h : Graph}, SameFrame g h → g.IsInput t → h.IsInput t := by
    rintro g h hgh ⟨n, hn, p, hp, hport⟩
    obtain ⟨m, hm, hframe⟩ := hgh.exists_node? hn
    have hinputs : m.inputs = n.inputs := (congrArg Node.inputs hframe :)
    exact ⟨m, hm, p, hinputs ▸ hp, hport⟩
  exact ⟨hforward hgh, hforward hgh.symm⟩

/-- A well-formed graph is determined by its frame and the shapes at its output ports. -/
theorem WellFormed.eq_of_sameFrame (hg : g.WellFormed) (hh : h.WellFormed) (hgh : SameFrame g h)
    (hshape : ∀ t, g.IsOutput t → g.shapeAt? t = h.shapeAt? t) : g = h := by
  refine hgh.eq_of_outputShapes fun id n m hn hm => ?_
  obtain ⟨m', hm', hframe⟩ := hgh.exists_node? hn
  obtain rfl : m = m' := Option.some.inj (hm.symm.trans hm')
  rw [hg.eq_of_shapeAt? hh hn hm hframe.symm fun p hp => hshape ⟨id, p.id⟩ ⟨n, hn, p, hp, rfl⟩]

/-- Whether a graph is well formed does not depend on shapes. -/
theorem WellFormed.of_sameFrame (hg : g.WellFormed) (hgh : SameFrame g h) : h.WellFormed where
  id_eq := by
    intro id n hn
    obtain ⟨m, hm, hframe⟩ := hgh.symm.exists_node? hn
    have hid : m.id = n.id := (congrArg Node.id hframe :)
    rw [← hid, hg.id_eq id m hm]
  nodup_inputs := by
    intro id n hn
    obtain ⟨m, hm, hframe⟩ := hgh.symm.exists_node? hn
    have hinputs : m.inputs = n.inputs := (congrArg Node.inputs hframe :)
    exact hinputs ▸ hg.nodup_inputs id m hm
  nodup_outputs := by
    intro id n hn
    obtain ⟨m, hm, hframe⟩ := hgh.symm.exists_node? hn
    exact Node.map_id_outputs_eq hframe ▸ hg.nodup_outputs id m hm
  isOutput_source := by
    intro e he
    exact (hgh.isOutput_iff _).1 (hg.isOutput_source e (hgh.edges_eq ▸ he))
  isInput_target := by
    intro e he
    exact (hgh.isInput_iff _).1 (hg.isInput_target e (hgh.edges_eq ▸ he))
  nodup_targets := hgh.edges_eq ▸ hg.nodup_targets
  feeds_eq := by rw [← hgh.feeds_eq, ← hgh.edges_eq, hg.feeds_eq]

end Frames

section Construction

theorem wellFormed_empty (name : String) (version : UInt32) : (empty name version).WellFormed where
  id_eq := by intro id n hn; cases hn
  nodup_inputs := by intro id n hn; cases hn
  nodup_outputs := by intro id n hn; cases hn
  isOutput_source := by intro e he; cases he
  isInput_target := by intro e he; cases he
  nodup_targets := List.nodup_nil
  feeds_eq := rfl

/-- There is no repetition exactly if the ports are distinct and none of them was seen before. -/
theorem firstRepeat?_eq_none_iff {seen ports : List PortId} :
    firstRepeat? seen ports = none ↔ ports.Nodup ∧ ∀ p ∈ ports, p ∉ seen := by
  induction ports generalizing seen with
  | nil => simp [firstRepeat?]
  | cons p ports ih =>
    by_cases hseen : p ∈ seen
    · simp [firstRepeat?, hseen]
    · rw [firstRepeat?, if_neg hseen, ih]
      simp only [List.mem_cons, not_or, List.nodup_cons]
      grind

theorem checkPorts_eq_ok_iff (id : NodeId) (side : PortSide) (ports : List PortId) :
    checkPorts id side ports = .ok () ↔ ports.Nodup := by
  have hrepeat : firstRepeat? [] ports = none ↔ ports.Nodup := by
    simp [firstRepeat?_eq_none_iff]
  rw [← hrepeat, checkPorts]
  cases firstRepeat? [] ports <;> simp

/-- A node is added exactly if its number is new and its ports are distinct on each side. -/
theorem addNode_eq_ok_iff : g.addNode n = .ok h ↔
    g.node? n.id = none ∧ (n.inputs.map InputPort.id).Nodup ∧
      (n.outputs.map OutputPort.id).Nodup ∧ h = g.setNode n.id n := by
  rw [← checkPorts_eq_ok_iff n.id .input, ← checkPorts_eq_ok_iff n.id .output]
  have hnew : g.node? n.id = none ↔ g.nodes.contains n.id = false := by
    rw [Dictionary.contains, Option.isSome_eq_false_iff, Option.isNone_iff_eq_none, node?]
  rw [hnew]
  simp only [addNode, bind, Except.bind, throw, throwThe, MonadExceptOf.throw, pure, Except.pure]
  cases g.nodes.contains n.id with
  | true => simp
  | false =>
    cases checkPorts n.id .input (n.inputs.map InputPort.id) with
    | error err => simp
    | ok _ =>
      cases checkPorts n.id .output (n.outputs.map OutputPort.id) with
      | error err => simp
      | ok _ => simp [setNode, eq_comm]

/-- An edge is added exactly if it joins existing ports and nothing feeds its target yet. -/
theorem addEdge_eq_ok_iff : g.addEdge e = .ok h ↔
    g.IsOutput e.source ∧ g.IsInput e.target ∧ g.feeds.lookup e.target = none ∧
      h = { g with edges := g.edges ++ [e], feeds := g.feeds ++ [(e.target, g.edges.length)] } := by
  simp only [addEdge, bind, Except.bind, throw, throwThe, MonadExceptOf.throw, pure, Except.pure]
  -- one case for each check, in the order in which they are made
  cases hsource : g.node? e.source.node with
  | none => simp [IsOutput, hsource]
  | some source =>
    rw [isOutput_iff_of_node? hsource]
    dsimp only
    cases source.output? e.source.port with
    | none => simp
    | some _ =>
      cases htarget : g.node? e.target.node with
      | none => simp [IsInput, htarget]
      | some target =>
        rw [isInput_iff_of_node? htarget]
        dsimp only
        cases target.input? e.target.port with
        | none => simp
        | some _ => cases g.feeds.lookup e.target <;> simp [eq_comm]

/-- A graph stays well formed when a node is added. -/
theorem WellFormed.addNode (hg : g.WellFormed) (hadd : g.addNode n = .ok h) : h.WellFormed := by
  obtain ⟨hnew, hinputs, houtputs, rfl⟩ := addNode_eq_ok_iff.1 hadd
  -- what was stored before is still there, as the number of the node is new
  have hkept : ∀ id m, g.node? id = some m → (g.setNode n.id n).node? id = some m := by
    intro id m hm
    rw [node?_setNode, if_neg, hm]
    rintro rfl
    simp [hnew] at hm
  have hnode : ∀ id m, (g.setNode n.id n).node? id = some m →
      id = n.id ∧ m = n ∨ g.node? id = some m := by
    intro id m hm
    rw [node?_setNode] at hm
    split at hm
    next hid => exact Or.inl ⟨hid, (Option.some.inj hm).symm⟩
    · exact Or.inr hm
  constructor
  case id_eq =>
    intro id m hm
    rcases hnode id m hm with ⟨rfl, rfl⟩ | hm
    · rfl
    · exact hg.id_eq id m hm
  case nodup_inputs =>
    intro id m hm
    rcases hnode id m hm with ⟨-, rfl⟩ | hm
    · exact hinputs
    · exact hg.nodup_inputs id m hm
  case nodup_outputs =>
    intro id m hm
    rcases hnode id m hm with ⟨-, rfl⟩ | hm
    · exact houtputs
    · exact hg.nodup_outputs id m hm
  case isOutput_source =>
    intro e he
    obtain ⟨m, hm, hport⟩ := hg.isOutput_source e he
    exact ⟨m, hkept _ m hm, hport⟩
  case isInput_target =>
    intro e he
    obtain ⟨m, hm, hport⟩ := hg.isInput_target e he
    exact ⟨m, hkept _ m hm, hport⟩
  case nodup_targets => exact hg.nodup_targets
  case feeds_eq => exact hg.feeds_eq

/-- A graph stays well formed when an edge is added: its target was free, and its position is the
next in the list. -/
theorem WellFormed.addEdge (hg : g.WellFormed) (hadd : g.addEdge e = .ok h) : h.WellFormed := by
  obtain ⟨hsource, htarget, hfree, rfl⟩ := addEdge_eq_ok_iff.1 hadd
  refine ⟨hg.id_eq, hg.nodup_inputs, hg.nodup_outputs, ?_, ?_, ?_, ?_⟩
  · intro e' he'
    rcases List.mem_append.1 he' with he' | he'
    · exact hg.isOutput_source e' he'
    · exact List.mem_singleton.1 he' ▸ hsource
  · intro e' he'
    rcases List.mem_append.1 he' with he' | he'
    · exact hg.isInput_target e' he'
    · exact List.mem_singleton.1 he' ▸ htarget
  · rw [List.map_append, List.map_singleton, List.nodup_append]
    refine ⟨hg.nodup_targets, List.nodup_singleton _, ?_⟩
    intro t ht t' ht'
    obtain ⟨e', he', rfl⟩ := List.mem_map.1 ht
    rw [List.mem_singleton.1 ht']
    exact hg.lookup_feeds_eq_none_iff.1 hfree e' he'
  · rw [List.mapIdx_append, ← hg.feeds_eq]
    simp

end Construction

section Operations

/-- What can be done to a graph by adding nodes and edges, by setting and clearing output shapes and
by inference. To overwrite a stored node through a mutable reference to it is not among the
operations: what is written there is not checked. -/
inductive Operation where
  | addNode (node : Node)
  | addEdge (edge : Edge)
  | setOutputShapes (id : NodeId) (shapes : List Shape)
  | clearOutputShapes (id : NodeId)
  | inferShapes (options : InferOptions)

/-- The graph that an operation leaves. A failing operation leaves the graph as it was, except that
a run of inference keeps the shapes stored before it failed. -/
def perform (g : Graph) : Operation → Graph
  | .addNode n => (g.addNode n).toOption.getD g
  | .addEdge e => (g.addEdge e).toOption.getD g
  | .setOutputShapes id shapes => (g.setOutputShapes id shapes).toOption.getD g
  | .clearOutputShapes id => (g.clearOutputShapes id).toOption.getD g
  | .inferShapes options => (g.inferShapes options).graph

def performAll (g : Graph) (ops : List Operation) : Graph := ops.foldl perform g

/-- A graph made from an empty one by operations. -/
def Reachable (g : Graph) : Prop := ∃ name version ops, g = (empty name version).performAll ops

/-- An operation that fails leaves the graph as it was, so it is enough to look at those that
succeed. -/
theorem wellFormed_getD (hg : g.WellFormed) {result : Except GraphError Graph}
    (hok : ∀ h, result = .ok h → h.WellFormed) : (result.toOption.getD g).WellFormed := by
  cases result with
  | error err => exact hg
  | ok h => exact hok h rfl

/-- No operation breaks a well-formed graph, be it that it succeeds or fails. -/
theorem WellFormed.perform (hg : g.WellFormed) (op : Operation) : (g.perform op).WellFormed := by
  cases op with
  | addNode n => exact wellFormed_getD hg fun h => hg.addNode
  | addEdge e => exact wellFormed_getD hg fun h => hg.addEdge
  | setOutputShapes id shapes =>
    exact wellFormed_getD hg fun h hset => hg.of_sameFrame (sameFrame_setOutputShapes hset)
  | clearOutputShapes id =>
    exact wellFormed_getD hg fun h hclear => hg.of_sameFrame (sameFrame_clearOutputShapes hclear)
  | inferShapes options => exact hg.of_sameFrame (sameFrame_inferShapes g options)

/-- Every operation keeps a graph well formed, and so does any list of them. -/
theorem WellFormed.performAll (hg : g.WellFormed) (ops : List Operation) :
    (g.performAll ops).WellFormed := by
  induction ops generalizing g with
  | nil => exact hg
  | cons op ops ih => exact ih (hg.perform op)

/-- Whatever was done to a graph, it is well formed. -/
theorem Reachable.wellFormed (hg : g.Reachable) : g.WellFormed := by
  obtain ⟨name, version, ops, rfl⟩ := hg
  exact (wellFormed_empty name version).performAll ops

/-- After any operations on an empty graph, in any order and whether they succeed or fail, nodes
stand under their own numbers and have distinct ports, edges join existing ports, no two edges enter
one port, and the index has exactly one entry for each edge. -/
theorem wellFormed_performAll_empty (name : String) (version : UInt32) (ops : List Operation) :
    ((empty name version).performAll ops).WellFormed :=
  (wellFormed_empty name version).performAll ops

end Operations

end Graph

end OpGraph
