import OpGraph.Proofs.Order.Sort

/-!
# Sorts of rearranged links

What has been put out determines the whole state of a sort: the table counts what is pending then,
and the ready list is ascending. Neither count nor readiness hangs on the order in which the links
are given. So a sort of the same links in another order goes through the same states, and its answer
is the same, be it a listing or the stuck nodes.
-/

namespace OpGraph

variable {ids : List NodeId} {links links' : List (NodeId × NodeId)}

/-- How many links are pending does not depend on the order in which links are listed. -/
theorem pending_perm (hlinks : links.Perm links') (out : List NodeId) (v : NodeId) :
    pending links out v = pending links' out v :=
  hlinks.countP_eq _

theorem isVertex_perm (hlinks : links.Perm links') {v : NodeId} :
    IsVertex ids links v ↔ IsVertex ids links' v := by
  simp only [IsVertex, hlinks.mem_iff]

namespace SortState

variable {s s' : SortState}

/-- The invariant speaks of links as a multiset. -/
theorem Invariant.perm (h : Invariant ids links s) (hlinks : links.Perm links') :
    Invariant ids links' s where
  inDegree v count := by rw [h.inDegree, isVertex_perm hlinks, pending_perm hlinks]
  ready v := by rw [h.ready, isVertex_perm hlinks, pending_perm hlinks]
  ascending := h.ascending
  nodup := h.nodup
  isVertex v hv := (isVertex_perm hlinks).1 (h.isVertex v hv)
  sourcesFirst before v after hsplit u huv :=
    h.sourcesFirst before v after hsplit u (hlinks.mem_iff.2 huv)

/-- The nodes that are out determine the state. -/
theorem Invariant.eq_of_order_eq (h : Invariant ids links s) (h' : Invariant ids links s')
    (horder : s.order = s'.order) : s = s' := by
  have hdegree : s.inDegree = s'.inDegree := by
    refine Dictionary.ext_get? fun v => Option.ext fun count => ?_
    rw [h.inDegree, h'.inDegree, horder]
  have hready : s.ready = s'.ready := by
    refine eq_of_ascending h.ascending h'.ascending fun v => ?_
    rw [h.ready, h'.ready, horder]
  cases s
  cases s'
  simp only at hdegree hready horder
  rw [hdegree, hready, horder]

/-- Both sorts start in the same state: the tables have the same keys and counts, and the ready
lists are ascending. -/
theorem start_perm (hlinks : links.Perm links') : start ids links = start ids links' :=
  (invariant_start ids links).eq_of_order_eq ((invariant_start ids links').perm hlinks.symm) rfl

/-- From the same state they take the same step. -/
theorem Invariant.step?_perm (h : Invariant ids links s) (hlinks : links.Perm links') :
    s.step? links = s.step? links' := by
  cases hready : s.ready with
  | nil => rw [step?_eq_none_iff.2 hready, step?_eq_none_iff.2 hready]
  | cons n rest =>
    have hstep : s.step? links = some (s.putOut links n rest) :=
      step?_eq_some_iff.2 ⟨n, rest, hready, rfl⟩
    have hstep' : s.step? links' = some (s.putOut links' n rest) :=
      step?_eq_some_iff.2 ⟨n, rest, hready, rfl⟩
    have hnext : Invariant ids links (s.putOut links n rest) := invariant_step h hstep
    have hnext' : Invariant ids links' (s.putOut links' n rest) :=
      invariant_step (h.perm hlinks) hstep'
    rw [hstep, hstep', hnext.eq_of_order_eq (hnext'.perm hlinks.symm) (by simp)]

/-- So they go through the same states. The induction is on the number of steps. -/
theorem Invariant.run_perm (h : Invariant ids links s) (hlinks : links.Perm links') (fuel : Nat) :
    s.run links fuel = s.run links' fuel := by
  induction fuel generalizing s with
  | zero => rfl
  | succ fuel ih =>
    rw [run, run, ← h.step?_perm hlinks]
    split
    · rfl
    next s' hs' => exact ih (invariant_step h hs')

end SortState

/-- A sort of the same links in another order has the same answer. -/
theorem topologicalSort_perm (ids : List NodeId) (hlinks : links.Perm links') :
    topologicalSort ids links = topologicalSort ids links' := by
  have hfinal : SortState.final ids links = SortState.final ids links' := by
    rw [SortState.final, SortState.final, ← SortState.start_perm hlinks,
      (SortState.invariant_start ids links).run_perm hlinks]
  rw [topologicalSort_eq, topologicalSort_eq, hfinal]

end OpGraph
