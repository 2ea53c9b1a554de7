import OpGraph.Proofs.Dictionary
import OpGraph.Proofs.Order.Listing

/-!
# The invariant of the topological sort

While nodes are put out, the table holds for every vertex the number of its links whose source is
not out yet, and the ready list holds the vertices that are not out and have none such. A step
keeps this, and as every step puts out a new vertex, the process ends with no vertex ready.

## Main definitions

- `pending`: the links into a node whose source is not out yet
- `SortState.Invariant`: what holds before every step

## Main statements

- `SortState.invariant_start`, `SortState.invariant_step`, `SortState.invariant_run`
- `SortState.ready_run_eq_nil`: as many steps as there are vertices suffice
-/

namespace OpGraph

variable {ids : List NodeId} {links : List (NodeId × NodeId)}

/-- The number of links into a node, parallel ones each, whose source is not in `out`. -/
def pending (links : List (NodeId × NodeId)) (out : List NodeId) (v : NodeId) : Nat :=
  links.countP fun link => decide (link.2 = v ∧ link.1 ∉ out)

/-- The targets of the links from a node, parallel ones each. -/
def targets (links : List (NodeId × NodeId)) (n : NodeId) : List NodeId :=
  (links.filter fun link => link.1 = n).map Prod.snd

theorem mem_targets {n v : NodeId} : v ∈ targets links n ↔ (n, v) ∈ links := by
  simp [targets]

/-- Nothing is pending at a node exactly when all its sources are out. -/
theorem pending_eq_zero {out : List NodeId} {v : NodeId} :
    pending links out v = 0 ↔ ∀ u, (u, v) ∈ links → u ∈ out := by
  simp only [pending, List.countP_eq_zero, decide_eq_true_eq, not_and, not_not, Prod.forall]
  constructor
  · intro h u hu
    exact h u v hu rfl
  · rintro h u w hu rfl
    exact h u hu

/-- A link more is one pending link more for its target, unless its source is out. -/
theorem pending_cons (link : NodeId × NodeId) (out : List NodeId) (v : NodeId) :
    pending (link :: links) out v =
      pending links out v + if link.2 = v ∧ link.1 ∉ out then 1 else 0 := by
  simp only [pending, List.countP_cons, decide_eq_true_eq]

theorem count_targets_cons (link : NodeId × NodeId) (n v : NodeId) :
    (targets (link :: links) n).count v =
      (targets links n).count v + if link.2 = v ∧ link.1 = n then 1 else 0 := by
  by_cases hn : link.1 = n
  · simp [targets, hn, List.count_cons]
  · simp [targets, hn]

/-- Putting out a node settles its links, each as often as it occurs. -/
theorem pending_eq_add (links : List (NodeId × NodeId)) {out : List NodeId} {n : NodeId}
    (hn : n ∉ out) (v : NodeId) :
    pending links out v = pending links (out ++ [n]) v + (targets links n).count v := by
  induction links with
  | nil => rfl
  | cons link rest ih =>
    rw [pending_cons, pending_cons, count_targets_cons, ih]
    -- the source of a pending link is the node put out now, or it is pending afterwards too
    have hsplit : (if link.2 = v ∧ link.1 ∉ out then 1 else 0) =
        (if link.2 = v ∧ link.1 ∉ out ++ [n] then 1 else 0) +
          if link.2 = v ∧ link.1 = n then 1 else 0 := by
      by_cases hsource : link.1 = n
      · simp [hsource, hn]
      · simp [hsource]
    omega

namespace SortState

section Insert

theorem mem_insertAscending {n v : NodeId} {ns : List NodeId} :
    v ∈ insertAscending n ns ↔ v = n ∨ v ∈ ns := by
  induction ns with
  | nil => simp [insertAscending]
  | cons m rest ih =>
    simp only [insertAscending]
    split
    · simp
    · simp [ih, or_left_comm]

/-- Insertion keeps a list in strictly ascending order. -/
theorem pairwise_insertAscending {n : NodeId} {ns : List NodeId} (hns : ns.Pairwise (· < ·))
    (hn : n ∉ ns) : (insertAscending n ns).Pairwise (· < ·) := by
  induction ns with
  | nil => exact List.pairwise_singleton _ _
  | cons m rest ih =>
    obtain ⟨hm, hrest⟩ := List.pairwise_cons.1 hns
    simp only [List.mem_cons, not_or] at hn
    simp only [insertAscending]
    split
    next hle =>
      have hlt : n < m := Std.lt_of_le_of_ne hle hn.1
      refine List.pairwise_cons.2 ⟨?_, hns⟩
      intro v hv
      rcases List.mem_cons.1 hv with rfl | hv
      · exact hlt
      · exact UInt64.lt_trans hlt (hm v hv)
    next hgt =>
      refine List.pairwise_cons.2 ⟨?_, ih hrest hn.2⟩
      intro v hv
      rcases mem_insertAscending.1 hv with rfl | hv
      · exact UInt64.not_le.1 hgt
      · exact hm v hv

end Insert

section Release

/-- To release a node takes one from its count and leaves all others. -/
theorem get?_release (s : SortState) (t v : NodeId) :
    (s.release t).inDegree.get? v =
      if v = t then (s.inDegree.get? v).map (· - 1) else s.inDegree.get? v := by
  simp only [release]
  split
  next hnone =>
    by_cases hv : v = t
    · subst hv
      simp [hnone]
    · rw [if_neg hv]
  next count hcount =>
    rw [Dictionary.get?_set]
    by_cases hv : v = t
    · subst hv
      simp [hcount]
    · rw [if_neg hv, if_neg hv]

@[simp] theorem order_release (s : SortState) (t : NodeId) : (s.release t).order = s.order := by
  simp only [release]
  split <;> rfl

theorem keys_release (s : SortState) (t : NodeId) :
    (s.release t).inDegree.keys = s.inDegree.keys := by
  simp only [release]
  split
  · rfl
  next count hcount => exact Dictionary.keys_set_of_get? hcount _

/-- A release makes its target ready when that uses up its degree, and nothing else. -/
theorem mem_ready_release {s : SortState} {t : NodeId} {count : Nat}
    (ht : s.inDegree.get? t = some (count + 1)) (v : NodeId) :
    v ∈ (s.release t).ready ↔ v ∈ s.ready ∨ v = t ∧ count = 0 := by
  simp only [release, ht, Nat.add_sub_cancel]
  split
  next hzero => rw [mem_insertAscending, or_comm, and_iff_left hzero]
  next hmore => simp [hmore]

/-- What was ready stays ready. -/
theorem ready_subset_release (s : SortState) (t : NodeId) : s.ready ⊆ (s.release t).ready := by
  intro v hv
  simp only [release]
  split
  · exact hv
  · dsimp only
    split
    · exact mem_insertAscending.2 (Or.inr hv)
    · exact hv

/-- The ready list stays ascending, as a node that becomes ready was not in it. -/
theorem pairwise_ready_release {s : SortState} {t : NodeId} (hnew : t ∉ s.ready)
    (hsorted : s.ready.Pairwise (· < ·)) : (s.release t).ready.Pairwise (· < ·) := by
  simp only [release]
  split
  · exact hsorted
  · dsimp only
    split
    · exact pairwise_insertAscending hsorted hnew
    · exact hsorted

theorem order_foldl_release (ts : List NodeId) (s : SortState) :
    (ts.foldl release s).order = s.order := by
  induction ts generalizing s with
  | nil => rfl
  | cons t ts ih => rw [List.foldl_cons, ih, order_release]

theorem keys_foldl_release (ts : List NodeId) (s : SortState) :
    (ts.foldl release s).inDegree.keys = s.inDegree.keys := by
  induction ts generalizing s with
  | nil => rfl
  | cons t ts ih => rw [List.foldl_cons, ih, keys_release]

/-- To release targets one after the other takes from each count as often as the node is among
them. -/
theorem get?_foldl_release (ts : List NodeId) (s : SortState) (v : NodeId) :
    (ts.foldl release s).inDegree.get? v = (s.inDegree.get? v).map (· - ts.count v) := by
  induction ts generalizing s with
  | nil => simp
  | cons t ts ih =>
    rw [List.foldl_cons, ih, get?_release]
    by_cases hv : v = t
    · subst hv
      rw [if_pos rfl, Option.map_map, List.count_cons_self]
      congr 1
      funext c
      simp only [Function.comp_apply]
      omega
    · rw [if_neg hv, List.count_cons_of_ne (Ne.symm hv)]

/-- What several releases make ready: the targets whose degree is used up by them. No degree may
fall below zero, and what is ready before has none left. -/
theorem ready_foldl_release {ts : List NodeId} {s : SortState}
    (hdegree : ∀ t ∈ ts, ∃ count, s.inDegree.get? t = some count ∧ ts.count t ≤ count)
    (hready : ∀ v ∈ s.ready, s.inDegree.get? v = some 0) (hsorted : s.ready.Pairwise (· < ·)) :
    (ts.foldl release s).ready.Pairwise (· < ·) ∧
      ∀ v, v ∈ (ts.foldl release s).ready ↔
        v ∈ s.ready ∨ v ∈ ts ∧ s.inDegree.get? v = some (ts.count v) := by
  induction ts generalizing s with
  | nil => simpa using hsorted
  | cons t ts ih =>
    obtain ⟨count, hcount, hle⟩ := hdegree t List.mem_cons_self
    rw [List.count_cons_self] at hle
    obtain ⟨left, rfl⟩ : ∃ left, count = left + 1 := ⟨count - 1, by omega⟩
    -- the target has a link left, and what is ready has none
    have hnew : t ∉ s.ready := by
      intro hmem
      simpa [hcount] using hready t hmem
    have hready' : ∀ v ∈ (s.release t).ready, (s.release t).inDegree.get? v = some 0 := by
      intro v hv
      rw [get?_release]
      rcases (mem_ready_release hcount v).1 hv with hold | ⟨rfl, rfl⟩
      · rw [if_neg (by rintro rfl; exact hnew hold), hready v hold]
      · rw [if_pos rfl, hcount]
        rfl
    have hdegree' : ∀ u ∈ ts, ∃ c, (s.release t).inDegree.get? u = some c ∧ ts.count u ≤ c := by
      intro u hu
      obtain ⟨c, hc, hcle⟩ := hdegree u (List.mem_cons_of_mem _ hu)
      rw [get?_release]
      by_cases hut : u = t
      · subst hut
        rw [List.count_cons_self] at hcle
        exact ⟨c - 1, by simp [hc], by omega⟩
      · rw [List.count_cons_of_ne (Ne.symm hut)] at hcle
        exact ⟨c, by simp [hut, hc], hcle⟩
    obtain ⟨hpairwise, hiff⟩ := ih hdegree' hready' (pairwise_ready_release hnew hsorted)
    refine ⟨hpairwise, fun v => ?_⟩
    rw [List.foldl_cons, hiff v, mem_ready_release hcount v, get?_release]
    by_cases hv : v = t
    · -- the target itself becomes ready now, or with a later release of it
      subst hv
      have hpos : v ∈ ts ↔ 0 < ts.count v := List.count_pos_iff.symm
      simp only [if_pos, hcount, Option.map_some, Option.some.injEq, List.count_cons_self,
        List.mem_cons, true_or, true_and, hpos, hnew, false_or]
      omega
    · simp [hv, List.count_cons_of_ne (Ne.symm hv)]

end Release

/-- What holds before every step of a sort. -/
structure Invariant (ids : List NodeId) (links : List (NodeId × NodeId)) (s : SortState) :
    Prop where
  -- the table knows the vertices and counts their pending links
  inDegree : ∀ v count,
    s.inDegree.get? v = some count ↔ IsVertex ids links v ∧ count = pending links s.order v
  -- ready are the vertices that are not out although nothing is pending at them
  ready : ∀ v, v ∈ s.ready ↔ IsVertex ids links v ∧ pending links s.order v = 0 ∧ v ∉ s.order
  ascending : s.ready.Pairwise (· < ·)
  nodup : s.order.Nodup
  isVertex : ∀ v ∈ s.order, IsVertex ids links v
  sourcesFirst : SourcesFirst links s.order

section Start

/-- To count a link adds one to its target and registers its source. -/
theorem get?_countLink (degrees : Dictionary NodeId Nat) (a b v : NodeId) :
    (countLink degrees (a, b)).get? v =
      if v = b then some ((degrees.get? v).getD 0 + 1)
      else if v = a then some ((degrees.get? v).getD 0)
      else degrees.get? v := by
  simp only [countLink]
  split
  next hknown =>
    -- the source is in the table already, so that only its target changes
    rw [Dictionary.contains, Dictionary.get?_set] at hknown
    rw [Dictionary.get?_set]
    by_cases hb : v = b
    · simp [hb]
    · rw [if_neg hb, if_neg hb]
      split
      next ha =>
        rw [← ha, if_neg hb] at hknown
        obtain ⟨count, hcount⟩ := Option.isSome_iff_exists.1 hknown
        simp [hcount]
      · rfl
  next hnew =>
    rw [Dictionary.contains, Dictionary.get?_set] at hnew
    rw [Dictionary.get?_set, Dictionary.get?_set]
    -- the source is new, so it is not the target, which the table has by now
    have hab : a ≠ b := by
      rintro rfl
      simp at hnew
    rw [if_neg hab] at hnew
    by_cases ha : v = a
    · subst ha
      simp [hab, Option.not_isSome_iff_eq_none.1 hnew]
    · rw [if_neg ha, if_neg ha]
      by_cases hb : v = b <;> simp [hb]

/-- Counting all links gives each end of a link its number of pending links, on top of what it
had. -/
theorem get?_foldl_countLink (degrees : Dictionary NodeId Nat) (v : NodeId) (count : Nat) :
    (links.foldl countLink degrees).get? v = some count ↔
      ((degrees.get? v).isSome ∨ ∃ u, (u, v) ∈ links ∨ (v, u) ∈ links) ∧
        count = (degrees.get? v).getD 0 + pending links [] v := by
  induction links generalizing degrees with
  | nil => cases hv : degrees.get? v <;> simp [pending, hv, eq_comm]
  | cons link rest ih =>
    obtain ⟨a, b⟩ := link
    rw [List.foldl_cons, ih, get?_countLink, pending_cons]
    have hends : (∃ u, (u, v) ∈ (a, b) :: rest ∨ (v, u) ∈ (a, b) :: rest) ↔
        v = b ∨ v = a ∨ ∃ u, (u, v) ∈ rest ∨ (v, u) ∈ rest := by
      constructor
      · rintro ⟨u, hu⟩
        simp only [List.mem_cons, Prod.mk.injEq] at hu
        grind
      · rintro (rfl | rfl | ⟨u, hu⟩)
        · exact ⟨a, Or.inl List.mem_cons_self⟩
        · exact ⟨b, Or.inr List.mem_cons_self⟩
        · exact ⟨u, hu.imp (List.mem_cons_of_mem _) (List.mem_cons_of_mem _)⟩
    rw [hends]
    by_cases hb : v = b
    · subst hb
      simp
      omega
    · by_cases ha : v = a
      · subst ha
        simp [hb, Ne.symm hb]
      · simp [hb, Ne.symm hb, ha]

/-- The table has every vertex, with the number of links into it. -/
theorem get?_countLinks (ids : List NodeId) (links : List (NodeId × NodeId)) (v : NodeId)
    (count : Nat) :
    (countLinks ids links).get? v = some count ↔
      IsVertex ids links v ∧ count = pending links [] v := by
  rw [countLinks, get?_foldl_countLink, Dictionary.get?_ofList_const]
  by_cases hv : v ∈ ids <;> simp [IsVertex, hv]

/-- Before any node is out, all links are pending. -/
theorem invariant_start (ids : List NodeId) (links : List (NodeId × NodeId)) :
    Invariant ids links (start ids links) where
  inDegree := get?_countLinks ids links
  ready := by
    intro v
    have hentry : v ∈ (start ids links).ready ↔ (countLinks ids links).get? v = some 0 := by
      simp [start, ← Dictionary.mem_entries_iff]
    rw [hentry, get?_countLinks]
    simp [start, eq_comm]
  ascending := List.pairwise_map.2 ((countLinks ids links).ascending.filter _)
  nodup := List.nodup_nil
  isVertex := by simp [start]
  sourcesFirst := by
    intro before v after h
    simp [start] at h

end Start

section Run

variable {s s' : SortState}

/-- The state after `n` is put out, with `rest` what was ready beside it. -/
def putOut (links : List (NodeId × NodeId)) (s : SortState) (n : NodeId) (rest : List NodeId) :
    SortState :=
  (targets links n).foldl release { s with ready := rest, order := s.order ++ [n] }

@[simp] theorem order_putOut (s : SortState) (n : NodeId) (rest : List NodeId) :
    (s.putOut links n rest).order = s.order ++ [n] :=
  order_foldl_release _ _

theorem keys_putOut (s : SortState) (n : NodeId) (rest : List NodeId) :
    (s.putOut links n rest).inDegree.keys = s.inDegree.keys :=
  keys_foldl_release _ _

/-- Putting out a node takes from each count the links from this node. -/
theorem get?_putOut (s : SortState) (n : NodeId) (rest : List NodeId) (v : NodeId) :
    (s.putOut links n rest).inDegree.get? v =
      (s.inDegree.get? v).map (· - (targets links n).count v) :=
  get?_foldl_release _ _ v

/-- A step puts out the first of the ready nodes. -/
theorem step?_eq_some_iff :
    s.step? links = some s' ↔ ∃ n rest, s.ready = n :: rest ∧ s' = s.putOut links n rest := by
  cases hready : s.ready with
  | nil => simp [step?, hready]
  | cons n rest => simp [step?, hready, putOut, targets, eq_comm]

theorem step?_eq_none_iff : s.step? links = none ↔ s.ready = [] := by
  cases hready : s.ready <;> simp [step?, hready]

/-- A node that is out had all its sources out before. -/
theorem Invariant.source_mem (h : Invariant ids links s) {u v : NodeId} (hv : v ∈ s.order)
    (huv : (u, v) ∈ links) : u ∈ s.order := by
  obtain ⟨before, after, heq⟩ := List.append_of_mem hv
  rw [heq]
  exact List.mem_append_left _ (h.sourcesFirst before v after heq u huv)

/-- The ready list has no repetition, so its rest lacks its head. -/
theorem Invariant.mem_rest_iff (h : Invariant ids links s) {n : NodeId} {rest : List NodeId}
    (hready : s.ready = n :: rest) (v : NodeId) : v ∈ rest ↔ v ∈ s.ready ∧ v ≠ n := by
  have hascending := h.ascending
  rw [hready] at hascending ⊢
  constructor
  · intro hv
    refine ⟨List.mem_cons_of_mem _ hv, ?_⟩
    rintro rfl
    exact UInt64.lt_irrefl v ((List.pairwise_cons.1 hascending).1 v hv)
  · rintro ⟨hv, hne⟩
    exact (List.mem_cons.1 hv).resolve_left hne

/-- The ready list after a step: the rest of it, and the targets of the vertex put out at which
nothing else was pending. No degree falls below zero on the way. -/
theorem Invariant.ready_putOut (h : Invariant ids links s) {n : NodeId} {rest : List NodeId}
    (hready : s.ready = n :: rest) (hnew : n ∉ s.order) :
    (s.putOut links n rest).ready.Pairwise (· < ·) ∧
      ∀ v, v ∈ (s.putOut links n rest).ready ↔ v ∈ rest ∨
        v ∈ targets links n ∧ s.inDegree.get? v = some ((targets links n).count v) := by
  refine ready_foldl_release ?_ ?_ ?_
  · intro t ht
    have hlink : (n, t) ∈ links := mem_targets.1 ht
    refine ⟨pending links s.order t, (h.inDegree t _).2 ⟨IsVertex.of_target hlink, rfl⟩, ?_⟩
    have hsplit := pending_eq_add links hnew t
    omega
  · intro v hv
    obtain ⟨hvertex, hzero, -⟩ := (h.ready v).1 ((h.mem_rest_iff hready v).1 hv).1
    exact (h.inDegree v 0).2 ⟨hvertex, hzero.symm⟩
  · exact (List.pairwise_cons.1 (hready ▸ h.ascending)).2

/-- One step keeps the invariant. The counts fall by the links from the node put out, and exactly
those nodes become ready whose last pending links these were. -/
theorem invariant_step (h : Invariant ids links s) (hs : s.step? links = some s') :
    Invariant ids links s' := by
  obtain ⟨n, rest, hready, rfl⟩ := step?_eq_some_iff.1 hs
  obtain ⟨hvertex, hpending, hnew⟩ := (h.ready n).1 (hready ▸ List.mem_cons_self)
  have hsplit := pending_eq_add links hnew
  obtain ⟨hascending, hmem⟩ := h.ready_putOut hready hnew
  constructor
  case inDegree =>
    intro v count
    rw [get?_putOut, order_putOut, Option.map_eq_some_iff]
    constructor
    · rintro ⟨before, hbefore, rfl⟩
      obtain ⟨hv, rfl⟩ := (h.inDegree v before).1 hbefore
      have hv' := hsplit v
      exact ⟨hv, by omega⟩
    · rintro ⟨hv, rfl⟩
      have hv' := hsplit v
      exact ⟨pending links s.order v, (h.inDegree v _).2 ⟨hv, rfl⟩, by omega⟩
  case ready =>
    intro v
    rw [hmem v, order_putOut, h.mem_rest_iff hready, h.ready v, h.inDegree v, hsplit v]
    simp only [List.mem_append, List.mem_singleton, not_or]
    constructor
    · rintro (⟨⟨hv, hzero, hout⟩, hne⟩ | ⟨ht, hv, hcount⟩)
      · exact ⟨hv, by omega, hout, hne⟩
      · -- a target of `n` is neither out already nor `n` itself, as `n` was pending there
        have hlink : (n, v) ∈ links := mem_targets.1 ht
        refine ⟨hv, by omega, fun hout => hnew (h.source_mem hout hlink), ?_⟩
        rintro rfl
        exact hnew (pending_eq_zero.1 hpending v hlink)
    · rintro ⟨hv, hzero, hout, hne⟩
      by_cases ht : v ∈ targets links n
      · exact Or.inr ⟨ht, hv, by omega⟩
      · have hcount : (targets links n).count v = 0 := List.count_eq_zero.2 ht
        exact Or.inl ⟨⟨hv, by omega, hout⟩, hne⟩
  case ascending => exact hascending
  case nodup =>
    rw [order_putOut]
    exact List.nodup_append.2 ⟨h.nodup, List.nodup_singleton n, by
      rintro a ha b hb rfl
      exact hnew (List.mem_singleton.1 hb ▸ ha)⟩
  case isVertex =>
    intro v hv
    rw [order_putOut, List.mem_append, List.mem_singleton] at hv
    rcases hv with hv | rfl
    · exact h.isVertex v hv
    · exact hvertex
  case sourcesFirst =>
    rw [order_putOut]
    exact h.sourcesFirst.snoc (pending_eq_zero.1 hpending)

theorem keys_step (hs : s.step? links = some s') : s'.inDegree.keys = s.inDegree.keys := by
  obtain ⟨n, rest, -, rfl⟩ := step?_eq_some_iff.1 hs
  exact keys_putOut s n rest

theorem length_order_step (hs : s.step? links = some s') :
    s'.order.length = s.order.length + 1 := by
  obtain ⟨n, rest, -, rfl⟩ := step?_eq_some_iff.1 hs
  rw [order_putOut, List.length_append, List.length_singleton]

/-- What holds before a run and is kept by each step holds after the run. -/
theorem run_induction {motive : SortState → Prop} (hs : motive s)
    (hstep : ∀ s s', motive s → s.step? links = some s' → motive s') (fuel : Nat) :
    motive (s.run links fuel) := by
  induction fuel generalizing s with
  | zero => exact hs
  | succ fuel ih =>
    rw [run]
    split
    · exact hs
    next s' hs' => exact ih (hstep s s' hs hs')

/-- A run keeps the invariant. -/
theorem invariant_run (h : Invariant ids links s) (fuel : Nat) :
    Invariant ids links (s.run links fuel) :=
  run_induction h (fun _ _ => invariant_step) fuel

theorem Invariant.mem_keys_iff (h : Invariant ids links s) (v : NodeId) :
    v ∈ s.inDegree.keys ↔ IsVertex ids links v := by
  rw [Dictionary.mem_keys_iff]
  constructor
  · rintro ⟨count, hcount⟩
    exact ((h.inDegree v count).1 hcount).1
  · intro hv
    exact ⟨_, (h.inDegree v _).2 ⟨hv, rfl⟩⟩

/-- No more vertices are put out than there are, and if as many, then all. -/
theorem Invariant.length_order_le (h : Invariant ids links s) :
    s.order.length ≤ s.inDegree.size ∧
      (s.order.length = s.inDegree.size ↔ ∀ v, IsVertex ids links v → v ∈ s.order) := by
  have hsub : s.order ⊆ s.inDegree.keys := fun v hv => (h.mem_keys_iff v).2 (h.isVertex v hv)
  have hsubperm : s.order.Subperm s.inDegree.keys := h.nodup.subperm hsub
  rw [← Dictionary.length_keys]
  refine ⟨hsubperm.length_le, ?_, ?_⟩
  · intro hlength v hv
    have hperm : s.order.Perm s.inDegree.keys := hsubperm.perm_of_length_le hlength.ge
    exact hperm.mem_iff.2 ((h.mem_keys_iff v).2 hv)
  · intro hall
    have hkeys : s.inDegree.keys ⊆ s.order := fun v hv => hall v ((h.mem_keys_iff v).1 hv)
    exact Nat.le_antisymm hsubperm.length_le
      ((Dictionary.nodup_keys _).subperm hkeys).length_le

/-- Every step puts out a vertex, so a run of enough steps ends with none ready. -/
theorem ready_run_eq_nil (h : Invariant ids links s) {fuel : Nat}
    (hfuel : s.inDegree.size ≤ fuel + s.order.length) : (s.run links fuel).ready = [] := by
  induction fuel generalizing s with
  | zero =>
    obtain ⟨hle, hall⟩ := h.length_order_le
    have hfull := hall.1 (by omega)
    refine List.eq_nil_iff_forall_not_mem.2 fun v hv => ?_
    obtain ⟨hvertex, -, hout⟩ := (h.ready v).1 hv
    exact hout (hfull v hvertex)
  | succ fuel ih =>
    rw [run]
    split
    next hnone => exact step?_eq_none_iff.1 hnone
    next s' hs' =>
      refine ih (invariant_step h hs') ?_
      have hsize : s'.inDegree.size = s.inDegree.size := by
        rw [← Dictionary.length_keys, keys_step hs', Dictionary.length_keys]
      rw [hsize, length_order_step hs']
      omega

end Run

end SortState

end OpGraph
