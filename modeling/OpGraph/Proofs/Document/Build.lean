import OpGraph.Document.Build
import OpGraph.Proofs.Graph.Construction

/-!
# What a document builds

The graph of a document is that of the nodes its layers make and of its edges. A document builds one
exactly if every layer makes a node, the numbers of these nodes are distinct, and the nodes and
edges make a well-formed graph.
-/

namespace OpGraph

namespace Document

variable {d : Document} {extend : Node → Node} {g h : Graph} {l : Layer} {n : Node}

section Layers

variable {p : Port} {layer : NodeId}

/-- Recorded dimensions are decoded to a shape, missing ones to none. -/
theorem Port.shape_eq_ok_iff {recorded : Option Shape} : p.shape layer = .ok recorded ↔
    Option.Rel (fun dims s => Shape.ofRecorded dims = .ok s) p.dims recorded := by
  cases hdims : p.dims with
  | none => cases recorded <;> simp [shape, hdims]
  | some dims =>
    rw [rel_some_left_iff]
    cases hs : Shape.ofRecorded dims <;> simp [shape, hdims, hs, eq_comm]

/-- A precision is decoded to the element type that it names, a missing one to none. -/
theorem Port.elementType_eq_ok_iff {elementType : Option ElementType} :
    p.elementType layer = .ok elementType ↔
      Option.Rel (fun name t => ElementType.ofName? name = some t) p.precision elementType := by
  cases hprecision : p.precision with
  | none => cases elementType <;> simp [Port.elementType, hprecision]
  | some name =>
    rw [rel_some_left_iff]
    cases ht : ElementType.ofName? name <;> simp [Port.elementType, hprecision, ht, eq_comm]

theorem Port.inputPort_eq_ok_iff {q : InputPort} : p.inputPort layer = .ok q ↔
    q.id = p.id ∧ Option.Rel (fun dims s => Shape.ofRecorded dims = .ok s) p.dims q.recorded := by
  simp only [inputPort, bind_eq_ok_iff, pure_eq_ok_iff, shape_eq_ok_iff]
  constructor
  · rintro ⟨recorded, hrecorded, rfl⟩
    exact ⟨rfl, hrecorded⟩
  · rintro ⟨hid, hrecorded⟩
    exact ⟨q.recorded, hrecorded, by rw [← hid]⟩

/-- Both parts of an output port have to be decoded, and it has no shape yet. -/
theorem Port.outputPort_eq_ok_iff {q : OutputPort} : p.outputPort layer = .ok q ↔
    q.id = p.id ∧
    Option.Rel (fun name t => ElementType.ofName? name = some t) p.precision q.elementType ∧
    Option.Rel (fun dims s => Shape.ofRecorded dims = .ok s) p.dims q.recorded ∧
      q.shape = none := by
  simp only [outputPort, bind_eq_ok_iff, pure_eq_ok_iff, shape_eq_ok_iff, elementType_eq_ok_iff]
  constructor
  · rintro ⟨elementType, htype, recorded, hrecorded, rfl⟩
    exact ⟨rfl, htype, hrecorded, rfl⟩
  · rintro ⟨hid, htype, hrecorded, hshape⟩
    exact ⟨q.elementType, htype, q.recorded, hrecorded, by rw [← hid, ← hshape]⟩

/-- A layer is read as the node with its ports and data and the strategy of its operator type, if
its ports can be read. -/
theorem Layer.node_eq_ok_iff : l.node = .ok n ↔ ∃ inputs outputs,
    List.Forall₂ (fun p q => p.inputPort l.id = .ok q) l.inputs inputs ∧
    List.Forall₂ (fun p q => p.outputPort l.id = .ok q) l.outputs outputs ∧
    n = ⟨l.id, l.name, l.opType, l.version, l.data.map Datum.render, inputs, outputs,
      .ofOpType l.opType⟩ := by
  simp only [node, bind_eq_ok_iff, pure_eq_ok_iff, mapM_eq_ok_iff fun _ _ => Iff.rfl,
    eq_comm (b := n)]
  simp only [exists_and_left]

end Layers

/-- The layer makes the node: it can be read, and the node is what extending leaves. -/
def Layer.Makes (extend : Node → Node) (l : Layer) (n : Node) : Prop :=
  ∃ m, l.node = .ok m ∧ extend m = n

theorem addTo_eq_ok_iff :
    l.addTo extend g = .ok h ↔ ∃ n, l.Makes extend n ∧ g.addNode n = .ok h := by
  simp only [Layer.addTo, bind_eq_ok_iff, mapError_eq_ok_iff, Layer.Makes]
  constructor
  · rintro ⟨m, hm, hadd⟩
    exact ⟨_, ⟨m, hm, rfl⟩, hadd⟩
  · rintro ⟨_, ⟨m, hm, rfl⟩, hadd⟩
    exact ⟨m, hm, hadd⟩

/-- All layers can be added if each makes a node and these nodes can be added one after the
other. -/
theorem foldlM_addTo_eq_ok_iff {ls : List Layer} :
    ls.foldlM (Layer.addTo extend) g = .ok h ↔
      ∃ ns, List.Forall₂ (Layer.Makes extend) ls ns ∧ ns.foldlM Graph.addNode g = .ok h := by
  have hstep : ∀ g l h, Layer.addTo extend g l = .ok h ↔
      ∃ n, Layer.Makes extend l n ∧ g.addNode n = .ok h := fun _ _ _ => addTo_eq_ok_iff
  exact foldlM_eq_ok_iff_of_step hstep

/-- Edges are added to the graph as they stand in the document. -/
theorem foldlM_addEdgeTo_eq_ok_iff {es : List Edge} :
    es.foldlM addEdgeTo g = .ok h ↔ es.foldlM Graph.addEdge g = .ok h := by
  have hstep : ∀ g e h, addEdgeTo g e = .ok h ↔ ∃ e', e = e' ∧ g.addEdge e' = .ok h := by
    intro g e h
    simp [addEdgeTo, mapError_eq_ok_iff]
  rw [foldlM_eq_ok_iff_of_step hstep]
  simp

/-- A document builds a graph exactly if its layers make nodes with distinct numbers that form a
well-formed graph with its edges. It is this graph that is built. -/
theorem buildWith_eq_ok_iff : d.buildWith extend = .ok g ↔
    ∃ ns, List.Forall₂ (Layer.Makes extend) d.layers ns ∧ (ns.map Node.id).Nodup ∧
      g = Graph.ofNodes d.name d.version ns d.edges ∧ g.WellFormed := by
  simp only [← Graph.construct_eq_ok_iff, buildWith, bind_eq_ok_iff, foldlM_addTo_eq_ok_iff,
    foldlM_addEdgeTo_eq_ok_iff]
  constructor
  · rintro ⟨k, ⟨ns, hns, hk⟩, hg⟩
    exact ⟨ns, hns, k, hk, hg⟩
  · rintro ⟨ns, hns, k, hk, hg⟩
    exact ⟨k, ⟨ns, hns, hk⟩, hg⟩

theorem edges_eq_of_buildWith (hg : d.buildWith extend = .ok g) : g.edges = d.edges := by
  obtain ⟨ns, -, -, rfl, -⟩ := buildWith_eq_ok_iff.1 hg
  rfl

/-- The graph of a document is well formed, as it was built by adding nodes and edges only. -/
theorem wellFormed_of_buildWith (hg : d.buildWith extend = .ok g) : g.WellFormed := by
  obtain ⟨ns, -, -, -, hwf⟩ := buildWith_eq_ok_iff.1 hg
  exact hwf

end Document

end OpGraph
