import OpGraph.Proofs.Order.Invariant

/-!
# Correctness of the topological sort

When no vertex is ready any more, either all are out, and the order is a listing with sources first,
or each of those left has a source among them, and the links form a cycle.
-/

namespace OpGraph

variable {ids : List NodeId} {links : List (NodeId × NodeId)}

namespace SortState

/-- The state that a sort ends in. -/
def final (ids : List NodeId) (links : List (NodeId × NodeId)) : SortState :=
  (start ids links).run links (start ids links).inDegree.size

theorem invariant_final (ids : List NodeId) (links : List (NodeId × NodeId)) :
    Invariant ids links (final ids links) :=
  invariant_run (invariant_start ids links) _

/-- The sort has as many steps as there are vertices, so no ready vertex is left when it ends. -/
theorem ready_final (ids : List NodeId) (links : List (NodeId × NodeId)) :
    (final ids links).ready = [] :=
  ready_run_eq_nil (invariant_start ids links) (Nat.le_add_right _ _)

/-- If all vertices are out, the order is a listing. -/
theorem Invariant.isListing {s : SortState} (h : Invariant ids links s)
    (hall : ∀ v, IsVertex ids links v → v ∈ s.order) : IsListing ids links s.order where
  nodup := h.nodup
  mem_iff v := ⟨h.isVertex v, hall v⟩
  idxOf_lt _ v huv := h.sourcesFirst.idxOf_lt h.nodup (hall v (IsVertex.of_target huv)) huv

/-- With no vertex ready, a vertex that is not out has a source that is not out. -/
theorem Invariant.exists_source {s : SortState} (h : Invariant ids links s) (hready : s.ready = [])
    {v : NodeId} (hv : IsVertex ids links v) (hout : v ∉ s.order) :
    ∃ u, (u, v) ∈ links ∧ u ∉ s.order := by
  by_contra hnone
  have hpending : pending links s.order v = 0 := by
    refine pending_eq_zero.2 fun u hu => ?_
    by_contra hu'
    exact hnone ⟨u, hu, hu'⟩
  have hmem : v ∈ s.ready := (h.ready v).2 ⟨hv, hpending, hout⟩
  simp [hready] at hmem

/-- With no vertex ready, a vertex that is not out is behind a cycle. -/
theorem Invariant.behindCycle {s : SortState} (h : Invariant ids links s) (hready : s.ready = [])
    {v : NodeId} (hv : IsVertex ids links v) (hout : v ∉ s.order) : BehindCycle links v := by
  have hmem : ∀ v, v ∈ s.inDegree.keys.filter (· ∉ s.order) ↔
      IsVertex ids links v ∧ v ∉ s.order := by
    intro v
    rw [List.mem_filter, h.mem_keys_iff, decide_eq_true_eq]
  refine behindCycle_of_forall_source ?_ ((hmem v).2 ⟨hv, hout⟩)
  intro w hw
  obtain ⟨hvertex, hwout⟩ := (hmem w).1 hw
  obtain ⟨u, hu, huout⟩ := h.exists_source hready hvertex hwout
  exact ⟨u, (hmem u).2 ⟨IsVertex.of_source hu, huout⟩, hu⟩

/-- With no vertex ready and some not out, the links form a cycle. -/
theorem Invariant.hasCycle {s : SortState} (h : Invariant ids links s) (hready : s.ready = [])
    (hleft : ¬ ∀ v, IsVertex ids links v → v ∈ s.order) : HasCycle links := by
  by_contra hacyclic
  refine hleft fun v hv => ?_
  by_contra hout
  exact hacyclic (h.behindCycle hready hv hout).hasCycle

end SortState

open SortState (final invariant_final ready_final)

/-- A sort succeeds if as many nodes are out as are in the table. -/
theorem topologicalSort_eq (ids : List NodeId) (links : List (NodeId × NodeId)) :
    topologicalSort ids links =
      if (final ids links).order.length = (final ids links).inDegree.size then
        .ok (final ids links).order
      else .error (final ids links).stuck :=
  rfl

/-- The order that a sort gives is a listing. -/
theorem isListing_of_topologicalSort {order : List NodeId}
    (h : topologicalSort ids links = .ok order) : IsListing ids links order := by
  rw [topologicalSort_eq] at h
  split at h
  next hlength =>
    obtain rfl := Except.ok.inj h
    have hinv := invariant_final ids links
    exact hinv.isListing (hinv.length_order_le.2.1 hlength)
  · cases h

/-- If a sort fails there is a cycle: each vertex left has a source among those left, and they are
finitely many. -/
theorem hasCycle_of_topologicalSort {stuck : List NodeId}
    (h : topologicalSort ids links = .error stuck) : HasCycle links := by
  rw [topologicalSort_eq] at h
  split at h
  · cases h
  next hlength =>
    have hinv := invariant_final ids links
    refine hinv.hasCycle (ready_final ids links) fun hall => ?_
    exact hlength (hinv.length_order_le.2.2 hall)

/-- A sort succeeds exactly if no node reaches itself along links, and its answer lists every given
node and every end of a link once, with the source of each link strictly before its target. -/
theorem topologicalSort_ok_iff_not_hasCycle (ids : List NodeId) (links : List (NodeId × NodeId)) :
    ((∃ order, topologicalSort ids links = .ok order) ↔ ¬ HasCycle links) ∧
      ∀ order, topologicalSort ids links = .ok order → IsListing ids links order := by
  refine ⟨⟨?_, ?_⟩, fun order h => isListing_of_topologicalSort h⟩
  · rintro ⟨order, h⟩
    exact (isListing_of_topologicalSort h).not_hasCycle
  · intro hcycle
    cases h : topologicalSort ids links with
    | ok order => exact ⟨order, rfl⟩
    | error stuck => exact absurd (hasCycle_of_topologicalSort h) hcycle

/-- A repeated node, parallel links, and a node known only as the end of a link. -/
theorem isListing_parallel_links :
    topologicalSort [3, 3, 1] [(1, 2), (1, 2), (3, 1)] = .ok [3, 1, 2] ∧
      IsListing [3, 3, 1] [(1, 2), (1, 2), (3, 1)] [3, 1, 2] := by
  have hsort : topologicalSort [3, 3, 1] [(1, 2), (1, 2), (3, 1)] = .ok [3, 1, 2] := by decide
  exact ⟨hsort, (topologicalSort_ok_iff_not_hasCycle _ _).2 _ hsort⟩

end OpGraph
