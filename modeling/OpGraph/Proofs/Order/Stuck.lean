import OpGraph.Proofs.Order.Sort

/-!
# The stuck nodes

A sort that fails names the nodes at which links are still pending. When no vertex is ready any
more, these are the nodes with a source that is not out. A node behind a cycle never gets out, and
whatever does not get out is behind a cycle; so the stuck nodes are exactly those on cycles and
behind them.
-/

namespace OpGraph

variable {ids : List NodeId} {links : List (NodeId × NodeId)} {stuck stuck' : List NodeId}

/-- The nodes that lie on cycles or can be reached from them, all of them and at least one, in
ascending order. -/
structure IsStuck (links : List (NodeId × NodeId)) (stuck : List NodeId) : Prop where
  ne_nil : stuck ≠ []
  ascending : stuck.Pairwise (· < ·)
  mem_iff : ∀ v, v ∈ stuck ↔ BehindCycle links v

/-- Only behind a cycle are nodes stuck, so there is one. -/
theorem IsStuck.hasCycle (h : IsStuck links stuck) : HasCycle links := by
  obtain ⟨v, hv⟩ := List.exists_mem_of_ne_nil stuck h.ne_nil
  exact ((h.mem_iff v).1 hv).hasCycle

/-- There is only one ascending list of these nodes. -/
theorem IsStuck.unique (h : IsStuck links stuck) (h' : IsStuck links stuck') : stuck = stuck' := by
  refine eq_of_ascending h.ascending h'.ascending fun v => ?_
  rw [h.mem_iff, h'.mem_iff]

namespace SortState

variable {s : SortState}

/-- Stuck are the vertices with a source that is not out. -/
theorem Invariant.mem_stuck_iff (h : Invariant ids links s) (v : NodeId) :
    v ∈ s.stuck ↔ ∃ u, (u, v) ∈ links ∧ u ∉ s.order := by
  have hcount : v ∈ s.stuck ↔ ∃ count, s.inDegree.get? v = some count ∧ 0 < count := by
    simp [stuck, ← Dictionary.mem_entries_iff]
  have hpending : 0 < pending links s.order v ↔ ∃ u, (u, v) ∈ links ∧ u ∉ s.order := by
    simp only [Nat.pos_iff_ne_zero, ne_eq, pending_eq_zero, not_forall, exists_prop]
  rw [hcount, ← hpending]
  constructor
  · rintro ⟨count, hget, hpos⟩
    obtain ⟨-, rfl⟩ := (h.inDegree v count).1 hget
    exact hpos
  · intro hpos
    obtain ⟨u, huv, -⟩ := hpending.1 hpos
    exact ⟨_, (h.inDegree v _).2 ⟨IsVertex.of_target huv, rfl⟩, hpos⟩

theorem pairwise_stuck (s : SortState) : s.stuck.Pairwise (· < ·) :=
  List.pairwise_map.2 (s.inDegree.ascending.filter _)

/-- The nodes left in the end are those behind a cycle. -/
theorem mem_stuck_final_iff (ids : List NodeId) (links : List (NodeId × NodeId)) (v : NodeId) :
    v ∈ (final ids links).stuck ↔ BehindCycle links v := by
  have hinv := invariant_final ids links
  rw [hinv.mem_stuck_iff]
  constructor
  · rintro ⟨u, huv, hout⟩
    have hbehind := hinv.behindCycle (ready_final ids links) (IsVertex.of_source huv) hout
    exact hbehind.step huv
  · intro hv
    obtain ⟨u, huv, hu⟩ := hv.exists_source
    exact ⟨u, huv, fun hmem => hinv.sourcesFirst.not_behindCycle hinv.nodup hmem hu⟩

/-- What a sort leaves, if there is a cycle. -/
theorem isStuck_final (ids : List NodeId) (hcycle : HasCycle links) :
    IsStuck links (final ids links).stuck where
  ne_nil := by
    obtain ⟨v, hv⟩ := hcycle.exists_behindCycle
    exact List.ne_nil_of_mem ((mem_stuck_final_iff ids links v).2 hv)
  ascending := pairwise_stuck _
  mem_iff := mem_stuck_final_iff ids links

end SortState

/-- The nodes that the error of a sort names are those on cycles and behind them. -/
theorem isStuck_of_topologicalSort (h : topologicalSort ids links = .error stuck) :
    IsStuck links stuck := by
  have hcycle := hasCycle_of_topologicalSort h
  rw [topologicalSort_eq] at h
  split at h
  · cases h
  · exact Except.error.inj h ▸ SortState.isStuck_final ids hcycle

/-- The error of a sort is the list of all nodes on cycles and behind them, whatever nodes are
listed beside those that links join. -/
theorem topologicalSort_eq_error_iff :
    topologicalSort ids links = .error stuck ↔ IsStuck links stuck := by
  constructor
  · exact isStuck_of_topologicalSort
  · intro hstuck
    cases h : topologicalSort ids links with
    | ok order => exact absurd hstuck.hasCycle (isListing_of_topologicalSort h).not_hasCycle
    | error stuck' => rw [(isStuck_of_topologicalSort h).unique hstuck]

/-- A node before a cycle gets out; the one behind it and one with a link to itself do not. -/
example : topologicalSort [0, 1, 2, 3] [(0, 1), (1, 2), (2, 1), (2, 3), (4, 4)] =
    .error [1, 2, 3, 4] := by
  decide

end OpGraph
