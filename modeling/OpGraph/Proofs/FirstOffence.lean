import OpGraph.Proofs.Traversal

/-!
# The first element at fault

Layers, ports and edges are gone through in their order, and an element may be at fault because of
those before it: a number is used again, or a port is taken already. The first element at fault
decides about the error, and what stands behind it is never looked at. Any check that goes through a
list and judges each element in view of those before it fails in this way.
-/

namespace OpGraph

variable {α β σ ε : Type} {Offends : List α → α → ε → Prop} {xs : List α} {x : α} {err : ε}

/-- No element of the list is at fault, each in view of the elements before it. -/
def NoneOffends (Offends : List α → α → ε → Prop) (xs : List α) : Prop :=
  ∀ before x after, xs = before ++ x :: after → ∀ err, ¬ Offends before x err

/-- The error is that of an element at fault before which none is at fault. -/
def FirstOffence (Offends : List α → α → ε → Prop) (xs : List α) (err : ε) : Prop :=
  ∃ before x after, xs = before ++ x :: after ∧ NoneOffends Offends before ∧ Offends before x err

@[simp] theorem noneOffends_nil : NoneOffends Offends [] := by
  intro before x after hsplit
  simp at hsplit

section Fold

variable {f : σ → α → Except ε σ} {s t : σ}

/-- A fold fails with the error of the first step that fails. -/
theorem foldlM_eq_error_iff : xs.foldlM f s = .error err ↔
    ∃ before x after, xs = before ++ x :: after ∧
      ∃ t, before.foldlM f s = .ok t ∧ f t x = .error err := by
  induction xs generalizing s with
  | nil => simp [pure, Except.pure]
  | cons x xs ih =>
    simp only [exists_split_cons_iff, List.foldlM_cons, List.foldlM_nil, bind_eq_error_iff,
      bind_eq_ok_iff, pure_eq_ok_iff, ih, exists_eq_left']
    refine or_congr_right ⟨?_, ?_⟩
    · rintro ⟨u, hu, before, y, after, rfl, t, ht, hy⟩
      exact ⟨before, y, after, rfl, t, ⟨u, hu, ht⟩, hy⟩
    · rintro ⟨before, y, after, rfl, t, ⟨u, hu, ht⟩, hy⟩
      exact ⟨u, hu, before, y, after, rfl, t, ht, hy⟩

/-- The steps of the fold fail with the errors for which their elements are at fault in view of
those before them. -/
def FailsBy (f : σ → α → Except ε σ) (s : σ) (Offends : List α → α → ε → Prop) : Prop :=
  ∀ before t, before.foldlM f s = .ok t → ∀ x err, f t x = .error err ↔ Offends before x err

/-- A fold whose steps fail for the faults of their elements succeeds exactly if no element is at
fault. -/
theorem exists_foldlM_iff_noneOffends (hf : FailsBy f s Offends) :
    (∃ t, xs.foldlM f s = .ok t) ↔ NoneOffends Offends xs := by
  constructor
  · rintro ⟨t, ht⟩ before x after rfl err hx
    simp only [List.foldlM_append, List.foldlM_cons, bind_eq_ok_iff] at ht
    obtain ⟨u, hu, v, hv, -⟩ := ht
    rw [(hf before u hu x err).2 hx] at hv
    cases hv
  · intro hnone
    cases hfold : xs.foldlM f s with
    | ok t => exact ⟨t, rfl⟩
    | error err =>
      obtain ⟨before, x, after, hsplit, t, ht, hx⟩ := foldlM_eq_error_iff.1 hfold
      exact absurd ((hf before t ht x err).1 hx) (hnone before x after hsplit err)

/-- A fold whose steps fail for the faults of their elements fails for the first of them. -/
theorem foldlM_eq_error_iff_firstOffence (hf : FailsBy f s Offends) :
    xs.foldlM f s = .error err ↔ FirstOffence Offends xs err := by
  simp only [foldlM_eq_error_iff, FirstOffence, ← exists_foldlM_iff_noneOffends hf]
  refine exists₃_congr fun before x after => and_congr_right fun _ => ?_
  constructor
  · rintro ⟨t, ht, hx⟩
    exact ⟨⟨t, ht⟩, (hf before t ht x err).1 hx⟩
  · rintro ⟨⟨t, ht⟩, hx⟩
    exact ⟨t, ht, (hf before t ht x err).2 hx⟩

end Fold

section Traverse

variable {Faulty : α → ε → Prop} {f : α → Except ε β}

/-- Where elements are judged by themselves, none is at fault if each is without fault. -/
theorem noneOffends_iff_forall_mem :
    NoneOffends (fun _ => Faulty) xs ↔ ∀ x ∈ xs, ∀ err, ¬ Faulty x err := by
  constructor
  · intro h x hx
    obtain ⟨before, after, hsplit⟩ := List.append_of_mem hx
    exact h before x after hsplit
  · rintro h before x after rfl
    exact h x (by simp)

/-- A traversal that judges each element by itself fails for the first one at fault. What came
before it does not matter here. -/
theorem mapM_eq_error_iff_firstOffence (hf : ∀ x err, f x = .error err ↔ Faulty x err) :
    xs.mapM f = .error err ↔ FirstOffence (fun _ => Faulty) xs err := by
  have hok : ∀ x, (∃ y, f x = .ok y) ↔ ∀ err, ¬ Faulty x err := by
    intro x
    simp only [← hf]
    cases f x <;> simp
  simp only [mapM_eq_error_iff, FirstOffence, noneOffends_iff_forall_mem, hok, hf]

end Traverse

end OpGraph
