import OpGraph.Proofs.Graph.Order

/-!
# Parts of a graph

Some nodes of a graph, with the edges that join two of them, make a graph of their own. It has no
cycle that the whole does not have. If the nodes are chosen so that whatever feeds one of them is
among them, then each of them has the same producers as before.
-/

namespace OpGraph

namespace Graph

variable {g : Graph} {ids : List NodeId}

/-- The listed nodes of a graph and the edges that join two of them. -/
def restrictTo (g : Graph) (ids : List NodeId) : Graph :=
  let edges := g.edges.filter fun e => e.source.node ∈ ids ∧ e.target.node ∈ ids
  { g with
    nodes := g.nodes.restrictTo ids
    edges
    feeds := edges.mapIdx fun i e => (e.target, i) }

theorem node?_restrictTo (g : Graph) (ids : List NodeId) (id : NodeId) :
    (g.restrictTo ids).node? id = if id ∈ ids then g.node? id else none :=
  Dictionary.get?_restrictTo _ _ _

/-- A part has the nodes of the graph whose numbers are listed, unchanged. -/
theorem node?_restrictTo_eq_some_iff {id : NodeId} {n : Node} :
    (g.restrictTo ids).node? id = some n ↔ id ∈ ids ∧ g.node? id = some n := by
  rw [node?_restrictTo]
  by_cases hid : id ∈ ids <;> simp [hid]

/-- A part has the edges that lead from a listed node to a listed one. -/
theorem mem_edges_restrictTo {e : Edge} : e ∈ (g.restrictTo ids).edges ↔
    e ∈ g.edges ∧ e.source.node ∈ ids ∧ e.target.node ∈ ids := by
  simp [restrictTo]

/-- A part of a well-formed graph is well formed. Its index is made anew, as positions in the list
of edges change. -/
theorem WellFormed.restrictTo (hg : g.WellFormed) (ids : List NodeId) :
    (g.restrictTo ids).WellFormed where
  id_eq id n hn := hg.id_eq id n (node?_restrictTo_eq_some_iff.1 hn).2
  nodup_inputs id n hn := hg.nodup_inputs id n (node?_restrictTo_eq_some_iff.1 hn).2
  nodup_outputs id n hn := hg.nodup_outputs id n (node?_restrictTo_eq_some_iff.1 hn).2
  isOutput_source := by
    intro e he
    obtain ⟨hmem, hsource, -⟩ := mem_edges_restrictTo.1 he
    obtain ⟨n, hn, hport⟩ := hg.isOutput_source e hmem
    exact ⟨n, node?_restrictTo_eq_some_iff.2 ⟨hsource, hn⟩, hport⟩
  isInput_target := by
    intro e he
    obtain ⟨hmem, -, htarget⟩ := mem_edges_restrictTo.1 he
    obtain ⟨n, hn, hport⟩ := hg.isInput_target e hmem
    exact ⟨n, node?_restrictTo_eq_some_iff.2 ⟨htarget, hn⟩, hport⟩
  nodup_targets := hg.nodup_targets.sublist (List.filter_sublist.map _)
  feeds_eq := rfl

/-- A part has no cycle that the graph has not. -/
theorem not_hasCycle_restrictTo (hacyclic : ¬ HasCycle g.links) (ids : List NodeId) :
    ¬ HasCycle (g.restrictTo ids).links := by
  have hlink : ∀ u v, (u, v) ∈ (g.restrictTo ids).links → (u, v) ∈ g.links := by
    intro u v huv
    obtain ⟨e, he, hends⟩ := mem_links_iff.1 huv
    exact mem_links_iff.2 ⟨e, (mem_edges_restrictTo.1 he).1, hends⟩
  exact fun hcycle => hacyclic (hcycle.map hlink)

/-- In a part that has, with a node, all nodes that feed it, every node keeps its producers. -/
theorem WellFormed.producer?_restrictTo (hg : g.WellFormed)
    (hclosed : ∀ e ∈ g.edges, e.target.node ∈ ids → e.source.node ∈ ids) {id : NodeId}
    (hid : id ∈ ids) (port : PortId) :
    (g.restrictTo ids).producer? id port = g.producer? id port := by
  ext e
  rw [(hg.restrictTo ids).producer?_eq_some_iff, hg.producer?_eq_some_iff, mem_edges_restrictTo]
  constructor
  · rintro ⟨⟨hmem, -⟩, htarget⟩
    exact ⟨hmem, htarget⟩
  · rintro ⟨hmem, htarget⟩
    have hnode : e.target.node ∈ ids := by rwa [htarget]
    exact ⟨⟨hmem, hclosed e hmem hnode, hnode⟩, htarget⟩

end Graph

end OpGraph
