import OpGraph.Proofs.Order.Sort

/-!
# A sort between two releases

A step of a sort puts out a node and releases the targets of its links one by one. Between two
releases the table counts, for each vertex, the links whose source is not out and those that wait to
be released; so no target that waits is counted with zero, and none becomes ready twice.

## Main definitions

- `SortMoment`, `SortMoment.next?`: a sort at any moment, and its next move
- `SortMoment.Reached`: the moments of a sort
- `SortMoment.Invariant`: what holds at each of them
- `SortMoment.Pushes`: moves that make a node ready

## Main statements

- `topologicalSort_counts_pending`: what the table and the ready list hold, and what follows from it
-/

namespace OpGraph

variable {ids : List NodeId} {links : List (NodeId × NodeId)}

/-- A sort at any moment: its state, and the targets of links from the node put out last that wait
to be released, parallel links each. Before a step none are waiting. -/
structure SortMoment where
  state : SortState
  waiting : List NodeId

namespace SortState

/-- Put out the node `n`, with `rest` what was ready beside it, and release nothing yet. -/
def takeOut (s : SortState) (n : NodeId) (rest : List NodeId) : SortState :=
  { s with ready := rest, order := s.order ++ [n] }

/-- Further steps go on from where a run stands. -/
theorem run_succ_of_step {s s' : SortState} {k : Nat} (hs : (s.run links k).step? links = some s') :
    s.run links (k + 1) = s' := by
  induction k generalizing s with
  | zero =>
    change s.step? links = some s' at hs
    rw [run, hs]
    rfl
  | succ k ih =>
    rw [run] at hs ⊢
    split at hs
    next hnone =>
      rw [hnone] at hs
      cases hs
    next s₁ hs₁ => exact ih hs

end SortState

namespace SortMoment

open SortState (start final takeOut)

variable {m m' : SortMoment} {s : SortState} {n t v : NodeId} {rest ts : List NodeId}

/-- Release the next target that waits, or else put out the smallest ready node. -/
def next? (links : List (NodeId × NodeId)) : SortMoment → Option SortMoment
  | ⟨s, t :: ts⟩ => some ⟨s.release t, ts⟩
  | ⟨s, []⟩ =>
    match s.ready with
    | [] => none
    | n :: rest => some ⟨s.takeOut n rest, targets links n⟩

/-- Moves, any number of them, lead from one moment to the other. -/
def Reaches (links : List (NodeId × NodeId)) : SortMoment → SortMoment → Prop :=
  Relation.ReflTransGen fun m m' => m.next? links = some m'

/-- The moment is one of a sort of these nodes and links. -/
def Reached (ids : List NodeId) (links : List (NodeId × NodeId)) : SortMoment → Prop :=
  Reaches links ⟨start ids links, []⟩

/-- The move puts a node on the ready list, besides those that are there. -/
def Pushes (links : List (NodeId × NodeId)) (m m' : SortMoment) (v : NodeId) : Prop :=
  m.next? links = some m' ∧ m'.state.ready.Perm (v :: m.state.ready)

/-- The state in which no target is waiting any more. -/
def settle (m : SortMoment) : SortState := m.waiting.foldl SortState.release m.state

section Moves

/-- A move releases the next target, or, where none is left, takes out the next ready node. -/
theorem next?_eq_some_iff : m.next? links = some m' ↔
    (∃ s t ts, m = ⟨s, t :: ts⟩ ∧ m' = ⟨s.release t, ts⟩) ∨
      ∃ s n rest, m = ⟨s, []⟩ ∧ s.ready = n :: rest ∧ m' = ⟨s.takeOut n rest, targets links n⟩ := by
  obtain ⟨s, _ | ⟨t, ts⟩⟩ := m
  · cases hready : s.ready with
    | nil => simp [next?, hready]
    | cons n rest => simp [next?, hready, eq_comm]
  · simp [next?, eq_comm]

theorem next?_eq_none (hready : s.ready = []) : next? links ⟨s, []⟩ = none := by
  simp [next?, hready]

/-- From any moment the moves lead to the one at which the targets are all released. -/
theorem reaches_settle (m : SortMoment) : Reaches links m ⟨m.settle, []⟩ := by
  obtain ⟨s, ts⟩ := m
  induction ts generalizing s with
  | nil => exact .refl
  | cons t ts ih => exact .head rfl (ih (s.release t))

/-- The moves of one step. -/
theorem reaches_step {s' : SortState} (hs : s.step? links = some s') :
    Reaches links ⟨s, []⟩ ⟨s', []⟩ := by
  obtain ⟨n, rest, hready, rfl⟩ := SortState.step?_eq_some_iff.1 hs
  exact .head (next?_eq_some_iff.2 (.inr ⟨s, n, rest, rfl, hready, rfl⟩))
    (reaches_settle ⟨s.takeOut n rest, targets links n⟩)

/-- The states between two steps are among the moments. -/
theorem reached_run (k : Nat) : Reached ids links ⟨(start ids links).run links k, []⟩ :=
  SortState.run_induction (motive := fun s => Reached ids links ⟨s, []⟩) .refl
    (fun _ _ hs hstep => hs.trans (reaches_step hstep)) k

/-- Whenever a sort has released what is waiting, it stands before a step. -/
theorem Reached.exists_run (h : Reached ids links m) :
    ∃ k, m.settle = (start ids links).run links k := by
  induction h with
  | refl => exact ⟨0, rfl⟩
  | tail _ hnext ih =>
    obtain ⟨k, hk⟩ := ih
    rcases next?_eq_some_iff.1 hnext with ⟨s, t, ts, rfl, rfl⟩ | ⟨s, n, rest, rfl, hready, rfl⟩
    · exact ⟨k, hk⟩
    · have hs : s = (start ids links).run links k := hk
      have hstep : s.step? links = some (s.putOut links n rest) :=
        SortState.step?_eq_some_iff.2 ⟨n, rest, hready, rfl⟩
      exact ⟨k + 1, (SortState.run_succ_of_step (hs ▸ hstep)).symm⟩

/-- The moments at which nothing is waiting are those before the steps. -/
theorem reached_iff_exists_run :
    Reached ids links ⟨s, []⟩ ↔ ∃ k, s = (start ids links).run links k := by
  constructor
  · exact fun h => h.exists_run
  · rintro ⟨k, rfl⟩
    exact reached_run k

/-- Whatever moment a sort has come to, it goes on to its end. -/
theorem Reached.reaches_final (h : Reached ids links m) :
    Reaches links m ⟨final ids links, []⟩ := by
  have hfinal : Reached ids links ⟨final ids links, []⟩ := reached_run _
  -- a moment has at most one next one, so two that are reached lie on one chain
  have hunique : Relator.RightUnique fun m m' : SortMoment => m.next? links = some m' :=
    fun _ _ _ h h' => Option.some.inj (h.symm.trans h')
  rcases Relation.ReflTransGen.total_of_right_unique hunique h hfinal with hend | hbehind
  · exact hend
  · -- nothing is reached from the end but itself
    rcases Relation.ReflTransGen.cases_head hbehind with rfl | ⟨_, hnext, -⟩
    · exact .refl
    · rw [next?_eq_none (SortState.ready_final ids links)] at hnext
      cases hnext

end Moves

/-- What holds at every moment of a sort. -/
structure Invariant (ids : List NodeId) (links : List (NodeId × NodeId)) (m : SortMoment) :
    Prop where
  -- the table knows the vertices and counts their pending links and those that wait
  inDegree : ∀ v count, m.state.inDegree.get? v = some count ↔
    IsVertex ids links v ∧ count = pending links m.state.order v + m.waiting.count v
  -- ready are the vertices with nothing left to count that are not out
  ready : ∀ v, v ∈ m.state.ready ↔ m.state.inDegree.get? v = some 0 ∧ v ∉ m.state.order
  ascending : m.state.ready.Pairwise (· < ·)
  nodup : m.state.order.Nodup
  settled : ∀ v ∈ m.state.order, m.state.inDegree.get? v = some 0
  isVertex : ∀ t ∈ m.waiting, IsVertex ids links t

namespace Invariant

theorem nodup_ready (h : Invariant ids links m) : m.state.ready.Nodup :=
  h.ascending.imp UInt64.ne_of_lt

/-- Before the first move nothing is to be released and all links are pending. -/
theorem start (ids : List NodeId) (links : List (NodeId × NodeId)) :
    Invariant ids links ⟨start ids links, []⟩ := by
  have hinv := SortState.invariant_start ids links
  constructor
  case inDegree => simpa using hinv.inDegree
  case ready =>
    intro v
    rw [hinv.ready, hinv.inDegree, and_assoc, eq_comm (a := 0)]
  case ascending => exact hinv.ascending
  case nodup => exact hinv.nodup
  case settled => exact List.forall_mem_nil _
  case isVertex => exact List.forall_mem_nil _

/-- A target that waits is counted at least once. -/
theorem exists_count (h : Invariant ids links ⟨s, t :: ts⟩) :
    ∃ count, s.inDegree.get? t = some (count + 1) := by
  refine ⟨pending links s.order t + ts.count t, (h.inDegree t _).2 ⟨?_, ?_⟩⟩
  · exact h.isVertex t List.mem_cons_self
  · rw [List.count_cons_self, Nat.add_assoc]

/-- Releasing a target keeps the invariant: it was counted, so it was neither ready nor out. -/
theorem release (h : Invariant ids links ⟨s, t :: ts⟩) : Invariant ids links ⟨s.release t, ts⟩ := by
  obtain ⟨count, ht⟩ := h.exists_count
  have hready : t ∉ s.ready := by
    intro hmem
    simpa [ht] using ((h.ready t).1 hmem).1
  have hout : t ∉ s.order := by
    intro hmem
    simpa [ht] using h.settled t hmem
  have hother : ∀ v, v ≠ t → (s.release t).inDegree.get? v = s.inDegree.get? v := by
    intro v hv
    rw [SortState.get?_release, if_neg hv]
  have htarget : (s.release t).inDegree.get? t = some count := by
    rw [SortState.get?_release, if_pos rfl, ht]
    rfl
  constructor
  case inDegree =>
    intro v c
    change (s.release t).inDegree.get? v = some c ↔
      IsVertex ids links v ∧ c = pending links (s.release t).order v + ts.count v
    rw [SortState.order_release]
    by_cases hv : v = t
    · subst hv
      obtain ⟨hvertex, hcount⟩ : IsVertex ids links v ∧
          count + 1 = pending links s.order v + (v :: ts).count v := (h.inDegree v _).1 ht
      rw [List.count_cons_self] at hcount
      rw [htarget, Option.some.injEq, and_iff_right hvertex]
      omega
    · rw [hother v hv, h.inDegree, List.count_cons_of_ne (Ne.symm hv)]
  case ready =>
    intro v
    rw [SortState.order_release, SortState.mem_ready_release ht, h.ready]
    by_cases hv : v = t
    · subst hv
      simp [ht, htarget, hout]
    · simp [hv, hother v hv]
  case ascending => exact SortState.pairwise_ready_release hready h.ascending
  case nodup =>
    rw [SortState.order_release]
    exact h.nodup
  case settled =>
    intro v hv
    rw [SortState.order_release] at hv
    rw [hother v (by rintro rfl; exact hout hv)]
    exact h.settled v hv
  case isVertex => exact fun u hu => h.isVertex u (List.mem_cons_of_mem t hu)

/-- Putting out a ready node keeps the invariant: its links are pending no more, and wait
instead. -/
theorem takeOut (h : Invariant ids links ⟨s, []⟩) (hready : s.ready = n :: rest) :
    Invariant ids links ⟨s.takeOut n rest, targets links n⟩ := by
  obtain ⟨hzero, hout⟩ := (h.ready n).1 (hready ▸ List.mem_cons_self)
  have hascending : (n :: rest).Pairwise (· < ·) := hready ▸ h.ascending
  -- the ready list is ascending, so the node put out is not in it twice
  have hrest : n ∉ rest := fun hmem =>
    UInt64.lt_irrefl n ((List.pairwise_cons.1 hascending).1 n hmem)
  constructor
  case inDegree =>
    intro v count
    have hcount : s.inDegree.get? v = some count ↔
        IsVertex ids links v ∧ count = pending links s.order v := h.inDegree v count
    rw [pending_eq_add links hout v] at hcount
    exact hcount
  case ready =>
    intro v
    have hv := h.ready v
    simp only [hready, List.mem_cons] at hv
    simp only [SortState.takeOut, List.mem_append, List.mem_singleton, not_or]
    rw [← and_assoc, ← hv]
    constructor
    · intro hmem
      exact ⟨.inr hmem, by rintro rfl; exact hrest hmem⟩
    · rintro ⟨hmem, hne⟩
      exact hmem.resolve_left hne
  case ascending => exact (List.pairwise_cons.1 hascending).2
  case nodup =>
    rw [SortState.takeOut, ← List.concat_eq_append]
    exact h.nodup.concat hout
  case settled =>
    intro v hv
    rcases List.mem_append.1 hv with hv | hv
    · exact h.settled v hv
    · exact List.mem_singleton.1 hv ▸ hzero
  case isVertex => exact fun u hu => IsVertex.of_target (mem_targets.1 hu)

/-- One move keeps the invariant: the target that is released has a pending link, the one it is
released for. -/
theorem next (h : Invariant ids links m) (hnext : m.next? links = some m') :
    Invariant ids links m' := by
  rcases next?_eq_some_iff.1 hnext with ⟨s, t, ts, rfl, rfl⟩ | ⟨s, n, rest, rfl, hready, rfl⟩
  · exact h.release
  · exact h.takeOut hready

end Invariant

/-- All moments that are reached satisfy the invariant. -/
theorem Reached.invariant (h : Reached ids links m) : Invariant ids links m := by
  induction h with
  | refl => exact .start ids links
  | tail _ hnext ih => exact ih.next hnext

section Pushes

/-- A node that is out stays out. -/
theorem order_prefix_of_next (hnext : m.next? links = some m') :
    m.state.order <+: m'.state.order := by
  rcases next?_eq_some_iff.1 hnext with ⟨s, t, ts, rfl, rfl⟩ | ⟨s, n, rest, rfl, -, rfl⟩
  · rw [SortState.order_release]
  · exact List.prefix_append s.order [n]

/-- A node that is ready or out is so ever after. -/
theorem Reaches.ready_or_out (h : Reaches links m m') (hv : v ∈ m.state.ready ∨ v ∈ m.state.order) :
    v ∈ m'.state.ready ∨ v ∈ m'.state.order := by
  induction h with
  | refl => exact hv
  | tail _ hnext ih =>
    rcases next?_eq_some_iff.1 hnext with ⟨s, t, ts, rfl, rfl⟩ | ⟨s, n, rest, rfl, hready, rfl⟩
    · rw [SortState.order_release]
      exact ih.imp_left fun hmem => SortState.ready_subset_release s t hmem
    · simp only [hready, List.mem_cons] at ih
      simp only [SortState.takeOut, List.mem_append, List.mem_singleton]
      rcases ih with (hv | hv) | hv
      · exact .inr (.inr hv)
      · exact .inl hv
      · exact .inr (.inl hv)

/-- A node that is pushed is neither ready nor out before. -/
theorem Reached.not_ready_or_out_of_pushes (h : Reached ids links m) (hpush : Pushes links m m' v) :
    ¬ (v ∈ m.state.ready ∨ v ∈ m.state.order) := by
  obtain ⟨hnext, hready⟩ := hpush
  have hinv : Invariant ids links m' := h.invariant.next hnext
  rintro (hmem | hmem)
  · have hnodup : (v :: m.state.ready).Nodup := hready.nodup hinv.nodup_ready
    exact (List.nodup_cons.1 hnodup).1 hmem
  · have hv : v ∈ m'.state.ready := hready.mem_iff.2 List.mem_cons_self
    exact ((hinv.ready v).1 hv).2 ((order_prefix_of_next hnext).subset hmem)

/-- A node that is pushed once is never pushed again. -/
theorem Reached.not_pushes_again {w w' : SortMoment} (h : Reached ids links m)
    (hpush : Pushes links m m' v) (hw : Reaches links m' w) : ¬ Pushes links w w' v := by
  intro hagain
  have hreached : Reached ids links w := (h.tail hpush.1).trans hw
  refine hreached.not_ready_or_out_of_pushes hagain (hw.ready_or_out (.inl ?_))
  exact hpush.2.mem_iff.2 List.mem_cons_self

/-- A node that is ready from the start is never pushed. -/
theorem Reached.not_pushes_of_start (h : Reached ids links m)
    (hv : v ∈ (start ids links).ready) : ¬ Pushes links m m' v :=
  fun hpush => h.not_ready_or_out_of_pushes hpush (h.ready_or_out (.inl hv))

end Pushes

end SortMoment

open SortMoment (Reached Reaches Pushes)

/-- The moments of a sort at which nothing waits to be released are those before the steps of its
run. At each of them the table holds, for every listed node and every end of a link and for no other
node, the number of links into it whose source is not out, parallel ones each; and the ready list
holds, each once, the nodes with the number zero that are not out. While the links of a node are
released one by one, no number is lowered below zero. A node is put on the ready list at most once,
and not at all if it is there from the start, and it is put out at most once. From whatever moment
it has come to, a sort goes on to its end. -/
theorem topologicalSort_counts_pending (ids : List NodeId) (links : List (NodeId × NodeId)) :
    (∀ s, Reached ids links ⟨s, []⟩ ↔ ∃ k, s = (SortState.start ids links).run links k) ∧
    (∀ s, Reached ids links ⟨s, []⟩ →
      (∀ v count, s.inDegree.get? v = some count ↔
        IsVertex ids links v ∧ count = pending links s.order v) ∧
      s.ready.Nodup ∧ ∀ v, v ∈ s.ready ↔ s.inDegree.get? v = some 0 ∧ v ∉ s.order) ∧
    (∀ s t ts, Reached ids links ⟨s, t :: ts⟩ → ∃ count, s.inDegree.get? t = some (count + 1)) ∧
    (∀ m m' v, Reached ids links m → Pushes links m m' v →
      v ∉ (SortState.start ids links).ready ∧ ∀ w w', Reaches links m' w → ¬ Pushes links w w' v) ∧
    (∀ m, Reached ids links m →
      m.state.order.Nodup ∧ (∀ v ∈ m.state.order, IsVertex ids links v) ∧
        Reaches links m ⟨SortState.final ids links, []⟩) ∧
    (SortState.final ids links).ready = [] := by
  refine ⟨fun s => SortMoment.reached_iff_exists_run,
    ?_, ?_, ?_, ?_, SortState.ready_final ids links⟩
  · intro s hs
    have hinv := hs.invariant
    exact ⟨by simpa using hinv.inDegree, hinv.nodup_ready, hinv.ready⟩
  · exact fun s t ts hs => hs.invariant.exists_count
  · intro m m' v hm hpush
    exact ⟨fun hv => hm.not_pushes_of_start hv hpush, fun w w' hw => hm.not_pushes_again hpush hw⟩
  · intro m hm
    have hinv := hm.invariant
    exact ⟨hinv.nodup, fun v hv => ((hinv.inDegree v 0).1 (hinv.settled v hv)).1, hm.reaches_final⟩

/-- Parallel links behind a node that is listed twice, and a link from a node to itself. -/
def parallelLinks : List (NodeId × NodeId) := [(1, 2), (1, 2), (3, 1), (4, 4)]

/-- The state in which `1` was put out after `3`, and one of its two links into `2` was released. -/
def halfReleased : SortState :=
  (((SortState.start [3, 3, 1] parallelLinks).run parallelLinks 1).takeOut 1 []).release 2

/-- The release of the second of the links pushes `2`, for the only time. -/
theorem topologicalSort_counts_pending_parallel :
    Reached [3, 3, 1] parallelLinks ⟨halfReleased, [2]⟩ ∧
      (∃ count, halfReleased.inDegree.get? 2 = some (count + 1)) ∧
      Pushes parallelLinks ⟨halfReleased, [2]⟩ ⟨halfReleased.release 2, []⟩ 2 ∧
      ∀ w w', Reaches parallelLinks ⟨halfReleased.release 2, []⟩ w →
        ¬ Pushes parallelLinks w w' 2 := by
  have hready : ((SortState.start [3, 3, 1] parallelLinks).run parallelLinks 1).ready = [1] := by
    decide
  have hreached : Reached [3, 3, 1] parallelLinks ⟨halfReleased, [2]⟩ :=
    ((SortMoment.reached_run 1).tail
      (SortMoment.next?_eq_some_iff.2 (.inr ⟨_, 1, [], rfl, hready, rfl⟩))).tail rfl
  have hpush : Pushes parallelLinks ⟨halfReleased, [2]⟩ ⟨halfReleased.release 2, []⟩ 2 :=
    ⟨rfl, by decide⟩
  obtain ⟨-, -, hcounted, hpushed, -, -⟩ := topologicalSort_counts_pending [3, 3, 1] parallelLinks
  exact ⟨hreached, hcounted _ _ _ hreached, hpush, (hpushed _ _ _ hreached hpush).2⟩

end OpGraph
