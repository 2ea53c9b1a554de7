import OpGraph.Proofs.Graph.WellFormed
import OpGraph.Proofs.Order.Rearrangement

/-!
# Orders of a graph

The edges of a graph link its nodes. In a well-formed graph the links join stored nodes only, so the
topological order lists exactly these, and each of them behind all nodes that feed it.
-/

namespace OpGraph

namespace Graph

variable {g k : Graph} {order : List NodeId}

/-- The pairs of nodes that edges join, one for each edge. -/
def links (g : Graph) : List (NodeId × NodeId) :=
  g.edges.map fun e => (e.source.node, e.target.node)

/-- A list of all stored nodes, each once and behind the nodes that feed it. -/
structure IsOrder (g : Graph) (order : List NodeId) : Prop where
  nodup : order.Nodup
  mem_iff : ∀ id, id ∈ order ↔ ∃ n, g.node? id = some n
  source_mem : ∀ before id after, order = before ++ id :: after →
    ∀ e ∈ g.edges, e.target.node = id → e.source.node ∈ before

theorem mem_links_iff {u v : NodeId} :
    (u, v) ∈ g.links ↔ ∃ e ∈ g.edges, e.source.node = u ∧ e.target.node = v := by
  simp [links]

theorem mem_nodeIds_iff {id : NodeId} : id ∈ g.nodeIds ↔ ∃ n, g.node? id = some n :=
  Dictionary.mem_keys_iff

/-- In a well-formed graph edges join stored nodes, so the sort knows of no others. -/
theorem WellFormed.isVertex_iff (hg : g.WellFormed) {id : NodeId} :
    IsVertex g.nodeIds g.links id ↔ ∃ n, g.node? id = some n := by
  rw [IsVertex, mem_nodeIds_iff, or_iff_left_iff_imp]
  rintro ⟨other, hlink | hlink⟩
  · obtain ⟨e, he, -, rfl⟩ := mem_links_iff.1 hlink
    obtain ⟨n, hn, -⟩ := hg.isInput_target e he
    exact ⟨n, hn⟩
  · obtain ⟨e, he, rfl, -⟩ := mem_links_iff.1 hlink
    obtain ⟨n, hn, -⟩ := hg.isOutput_source e he
    exact ⟨n, hn⟩

/-- What the sort promises of a listing, said in terms of nodes and edges. -/
theorem WellFormed.isOrder (hg : g.WellFormed) (h : IsListing g.nodeIds g.links order) :
    g.IsOrder order where
  nodup := h.nodup
  mem_iff id := (h.mem_iff id).trans hg.isVertex_iff
  source_mem := by
    rintro before id after hsplit e he rfl
    exact h.sourcesFirst before _ after hsplit _ (mem_links_iff.2 ⟨e, he, rfl, rfl⟩)

/-- A well-formed graph has an order or a cycle, and the sort tells which. -/
theorem WellFormed.topologicalOrder_cases (hg : g.WellFormed) :
    (¬ HasCycle g.links ∧ ∃ order, g.topologicalOrder = .ok order ∧ g.IsOrder order) ∨
      (HasCycle g.links ∧ ∃ stuck, g.topologicalOrder = .error (.cycle stuck)) := by
  have hsort : g.topologicalOrder = (topologicalSort g.nodeIds g.links).mapError .cycle := rfl
  rw [hsort]
  cases hresult : topologicalSort g.nodeIds g.links with
  | ok order =>
    have hlisting := isListing_of_topologicalSort hresult
    exact Or.inl ⟨hlisting.not_hasCycle, order, rfl, hg.isOrder hlisting⟩
  | error stuck => exact Or.inr ⟨hasCycle_of_topologicalSort hresult, stuck, rfl⟩

/-- The order that is found has all stored nodes once, producers before consumers. -/
theorem WellFormed.isOrder_of_topologicalOrder (hg : g.WellFormed)
    (hsort : g.topologicalOrder = .ok order) : g.IsOrder order := by
  rcases hg.topologicalOrder_cases with ⟨-, order', hsort', horder⟩ | ⟨-, stuck, hsort'⟩
  · rw [hsort] at hsort'
    exact Except.ok.inj hsort' ▸ horder
  · rw [hsort] at hsort'
    cases hsort'

/-- There is an order exactly if there is no cycle. -/
theorem WellFormed.exists_topologicalOrder_iff (hg : g.WellFormed) :
    (∃ order, g.topologicalOrder = .ok order) ↔ ¬ HasCycle g.links := by
  rcases hg.topologicalOrder_cases with ⟨hacyclic, order, hsort, -⟩ | ⟨hcycle, stuck, hsort⟩
  · exact iff_of_true ⟨order, hsort⟩ hacyclic
  · simp [hsort, hcycle]

section Rearrangement

/-- The order in which edges were added is of no influence on that of the nodes. -/
theorem topologicalOrder_eq_of_perm (hnodes : g.nodes = k.nodes) (hedges : g.edges.Perm k.edges) :
    g.topologicalOrder = k.topologicalOrder := by
  rw [topologicalOrder, topologicalOrder, nodeIds, nodeIds, hnodes,
    topologicalSort_perm _ (hedges.map fun e => (e.source.node, e.target.node))]

/-- Nor is it on which edge feeds a port: the positions in the index differ, the edges found there
do not. -/
theorem WellFormed.producer?_eq_of_perm (hg : g.WellFormed) (hk : k.WellFormed)
    (hedges : g.edges.Perm k.edges) : g.producer? = k.producer? := by
  funext node port
  ext e
  rw [hg.producer?_eq_some_iff, hk.producer?_eq_some_iff, hedges.mem_iff]

end Rearrangement

theorem IsOrder.perm {order' : List NodeId} (h : g.IsOrder order) (h' : Graph.IsOrder k order')
    (hstored : ∀ id, (∃ n, g.node? id = some n) ↔ ∃ n, k.node? id = some n) :
    order.Perm order' :=
  (List.perm_ext_iff_of_nodup h.nodup h'.nodup).2 fun id => by
    rw [h.mem_iff, h'.mem_iff, hstored]

end Graph

end OpGraph
