import OpGraph.Proofs.Order.Sort

/-!
# The least listing

A sort puts out, each time, the smallest vertex whose sources are all out. Where its answer and
another listing part for the first time, both go on with a vertex that is ready, so the answer goes
on with the smaller one. Among all listings of the same vertices it is therefore the first in
lexicographic order.
-/

namespace OpGraph

variable {ids : List NodeId} {links : List (NodeId × NodeId)}

/-- A vertex that is not out although all its sources are. -/
structure IsReady (ids : List NodeId) (links : List (NodeId × NodeId)) (out : List NodeId)
    (v : NodeId) : Prop where
  isVertex : IsVertex ids links v
  not_mem : v ∉ out
  source_mem : ∀ u, (u, v) ∈ links → u ∈ out

/-- Each node of the list was the smallest that was ready when the nodes before it were out. -/
def SmallestFirst (ids : List NodeId) (links : List (NodeId × NodeId)) (order : List NodeId) :
    Prop :=
  ∀ before v after, order = before ++ v :: after →
    IsReady ids links before v ∧ ∀ w, IsReady ids links before w → v ≤ w

/-- A list with the smallest ready vertex first stays so when the smallest ready vertex is put
behind it. -/
theorem SmallestFirst.snoc {order : List NodeId} {n : NodeId} (h : SmallestFirst ids links order)
    (hn : IsReady ids links order n) (hleast : ∀ w, IsReady ids links order w → n ≤ w) :
    SmallestFirst ids links (order ++ [n]) := by
  intro before v after heq
  rcases split_snoc heq with ⟨rfl, rfl⟩ | ⟨init, hinit⟩
  · exact ⟨hn, hleast⟩
  · exact h before v init hinit

/-- Where a listing goes on, it goes on with a vertex that is ready. -/
theorem IsListing.isReady {before after : List NodeId} {v : NodeId}
    (h : IsListing ids links (before ++ v :: after)) : IsReady ids links before v where
  isVertex := (h.mem_iff v).1 (by simp)
  not_mem := not_mem_of_nodup_split h.nodup
  source_mem := h.sourcesFirst before v after rfl

/-- A list that takes the smallest ready vertex everywhere comes before a listing that begins alike:
they go on with the same vertex, or the listing with a greater one. -/
theorem SmallestFirst.le_of_isListing {before rest rest' : List NodeId}
    (h : SmallestFirst ids links (before ++ rest)) (h' : IsListing ids links (before ++ rest')) :
    rest ≤ rest' := by
  induction rest generalizing before rest' with
  | nil => exact List.nil_le rest'
  | cons n rest ih =>
    obtain ⟨hn, hleast⟩ := h before n rest rfl
    cases rest' with
    | nil =>
      have hmem : n ∈ before := by simpa using (h'.mem_iff n).2 hn.isVertex
      exact absurd hmem hn.not_mem
    | cons m rest' =>
      have hle : n ≤ m := hleast m h'.isReady
      by_cases hnm : n = m
      · subst hnm
        have hnext : SmallestFirst ids links ((before ++ [n]) ++ rest) := by simpa using h
        have hnext' : IsListing ids links ((before ++ [n]) ++ rest') := by simpa using h'
        exact List.cons_le_cons_iff.2 (Or.inr ⟨rfl, ih hnext hnext'⟩)
      · exact List.cons_le_cons_iff.2 (Or.inl (Std.lt_of_le_of_ne hle hnm))

namespace SortState

variable {s s' : SortState}

/-- The ready list has the vertices whose sources are all out. -/
theorem Invariant.mem_ready_iff_isReady (h : Invariant ids links s) (v : NodeId) :
    v ∈ s.ready ↔ IsReady ids links s.order v := by
  rw [h.ready v, pending_eq_zero]
  constructor
  · rintro ⟨hvertex, hsources, hout⟩
    exact ⟨hvertex, hout, hsources⟩
  · rintro ⟨hvertex, hout, hsources⟩
    exact ⟨hvertex, hsources, hout⟩

/-- The ready list ascends, so what a step puts out is the smallest vertex that is ready. -/
theorem smallestFirst_step (h : Invariant ids links s) (hs : s.step? links = some s')
    (hsmallest : SmallestFirst ids links s.order) : SmallestFirst ids links s'.order := by
  obtain ⟨n, rest, hready, rfl⟩ := step?_eq_some_iff.1 hs
  rw [order_putOut]
  refine hsmallest.snoc ((h.mem_ready_iff_isReady n).1 (hready ▸ List.mem_cons_self)) ?_
  intro w hw
  have hmem : w ∈ n :: rest := hready ▸ (h.mem_ready_iff_isReady w).2 hw
  rcases List.mem_cons.1 hmem with rfl | hrest
  · exact UInt64.le_refl w
  · exact UInt64.le_of_lt ((List.pairwise_cons.1 (hready ▸ h.ascending)).1 w hrest)

/-- The order of a sort has the smallest ready vertex first everywhere, as each step puts out the
head of an ascending list. -/
theorem smallestFirst_final (ids : List NodeId) (links : List (NodeId × NodeId)) :
    SmallestFirst ids links (final ids links).order := by
  have hboth : Invariant ids links (final ids links) ∧
      SmallestFirst ids links (final ids links).order := by
    refine run_induction
      (motive := fun s => Invariant ids links s ∧ SmallestFirst ids links s.order)
      ⟨invariant_start ids links, ?_⟩ ?_ _
    · intro before v after heq
      simp [start] at heq
    · rintro s s' ⟨hinv, hsmallest⟩ hs
      exact ⟨invariant_step hinv hs, smallestFirst_step hinv hs hsmallest⟩
  exact hboth.2

end SortState

/-- The answer of a sort is a listing in which every node is the smallest whose sources all stand
before it, and so no listing of the same nodes comes before it in lexicographic order. -/
theorem topologicalSort_least {order : List NodeId} (h : topologicalSort ids links = .ok order) :
    IsListing ids links order ∧ SmallestFirst ids links order ∧
      ∀ other, IsListing ids links other → order ≤ other := by
  have hsmallest : SmallestFirst ids links order := by
    rw [topologicalSort_eq] at h
    split at h
    · exact Except.ok.inj h ▸ SortState.smallestFirst_final ids links
    · cases h
  refine ⟨isListing_of_topologicalSort h, hsmallest, ?_⟩
  intro other hother
  have hstart : SmallestFirst ids links ([] ++ order) := hsmallest
  have hstart' : IsListing ids links ([] ++ other) := hother
  exact hstart.le_of_isListing hstart'

/-- Where two nodes are ready behind the first, the answer takes the smaller one. -/
theorem topologicalSort_least_branched :
    topologicalSort [0, 1, 3, 5] [(5, 1), (1, 0), (5, 3)] = .ok [5, 1, 0, 3] ∧
      IsListing [0, 1, 3, 5] [(5, 1), (1, 0), (5, 3)] [5, 3, 1, 0] ∧
      ([5, 1, 0, 3] : List NodeId) ≤ [5, 3, 1, 0] := by
  have hsort : topologicalSort [0, 1, 3, 5] [(5, 1), (1, 0), (5, 3)] = .ok [5, 1, 0, 3] := by decide
  obtain ⟨hlisting, -, hleast⟩ := topologicalSort_least hsort
  have hother : IsListing [0, 1, 3, 5] [(5, 1), (1, 0), (5, 3)] [5, 3, 1, 0] := by
    refine ⟨by decide, fun v => ?_, ?_⟩
    · rw [← hlisting.mem_iff v]
      simp only [List.mem_cons]
      grind
    · intro u v huv
      simp only [List.mem_cons, Prod.mk.injEq, List.not_mem_nil, or_false] at huv
      rcases huv with ⟨rfl, rfl⟩ | ⟨rfl, rfl⟩ | ⟨rfl, rfl⟩ <;> decide
  exact ⟨hsort, hother, hleast _ hother⟩

end OpGraph
