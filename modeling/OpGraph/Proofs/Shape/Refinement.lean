import OpGraph.Proofs.Traversal
import OpGraph.Shape.Broadcast

/-!
# Refinement of shapes

A shape refines another if it says the same but that some dynamic dimensions may have got extents.
What broadcasts or is compatible stays so when the shapes are replaced by coarser ones, and the
broadcast shape is then coarser too.
-/

namespace OpGraph

namespace Dim

variable {a a' b b' c c' d : Dim} {n : UInt64}

/-- The two dimensions are the same, or the second is dynamic. -/
def Refines (d' d : Dim) : Prop := d = dynamic ∨ d' = d

instance (d' d : Dim) : Decidable (d'.Refines d) :=
  inferInstanceAs (Decidable (d = dynamic ∨ d' = d))

theorem Refines.refl (d : Dim) : d.Refines d := Or.inr rfl

/-- One rule for all cases: the first dimension where the second adds nothing to it, the second
where the first adds nothing, and none where they are different extents greater than one or zero. -/
theorem broadcast?_eq (a b : Dim) : a.broadcast? b =
    if a = b ∨ b = fixed 1 ∨ b = dynamic ∧ a ≠ fixed 1 then some a
    else if a = fixed 1 ∨ a = dynamic then some b else none := by
  cases a with
  | dynamic =>
    cases b with
    | dynamic => rfl
    | fixed n => by_cases hn : n = 1 <;> simp [broadcast?, hn]
  | fixed m =>
    cases b with
    | dynamic => by_cases hm : m = 1 <;> simp [broadcast?, hm]
    | fixed n =>
      by_cases hm : m = 1
      · by_cases hn : n = 1 <;> simp [broadcast?, hm, hn]
      · by_cases hn : n = 1 <;> simp [broadcast?, hm, hn]

theorem broadcast?_comm (a b : Dim) : a.broadcast? b = b.broadcast? a := by
  grind [broadcast?_eq]

@[simp] theorem broadcast?_self (d : Dim) : d.broadcast? d = some d := by
  simp [broadcast?]

@[simp] theorem one_broadcast? (d : Dim) : (fixed 1).broadcast? d = some d := by
  grind [broadcast?_eq]

@[simp] theorem broadcast?_one (d : Dim) : d.broadcast? (fixed 1) = some d := by
  rw [broadcast?_comm, one_broadcast?]

/-- An extent other than one decides what broadcasts with it. -/
theorem eq_fixed_of_broadcast? (hn : n ≠ 1) (h : a.broadcast? (fixed n) = some c) :
    c = fixed n := by
  grind [broadcast?_eq]

/-- What broadcasts with a dimension broadcasts with a dynamic one. -/
theorem exists_dynamic_broadcast? (h : a'.broadcast? b = some c') :
    ∃ c, dynamic.broadcast? b = some c ∧ c'.Refines c := by
  cases b with
  | dynamic => exact ⟨dynamic, rfl, Or.inl rfl⟩
  | fixed n =>
    by_cases hn : n = 1
    · subst hn
      exact ⟨dynamic, rfl, Or.inl rfl⟩
    · have hdynamic : dynamic.broadcast? (fixed n) = some (fixed n) := by
        simp [broadcast?_eq, hn]
      exact ⟨fixed n, hdynamic, Or.inr (eq_fixed_of_broadcast? hn h)⟩

/-- What broadcasts does so when extents are forgotten, and to a coarser dimension. -/
theorem Refines.broadcast? (ha : a'.Refines a) (hb : b'.Refines b)
    (h : a'.broadcast? b' = some c') : ∃ c, a.broadcast? b = some c ∧ c'.Refines c := by
  rcases ha with rfl | rfl
  · rcases hb with rfl | rfl
    · exact ⟨dynamic, rfl, Or.inl rfl⟩
    · exact exists_dynamic_broadcast? h
  · rcases hb with rfl | rfl
    · rw [broadcast?_comm] at h ⊢
      exact exists_dynamic_broadcast? h
    · exact ⟨c', h, Refines.refl c'⟩

/-- What is compatible stays so when extents are forgotten. -/
theorem Refines.compatible (ha : a'.Refines a) (hb : b'.Refines b) (h : a'.compatible b') :
    a.compatible b := by
  simp only [Dim.compatible, Bool.or_eq_true, beq_iff_eq] at h ⊢
  rcases ha with rfl | rfl
  · exact Or.inl (Or.inr rfl)
  · rcases hb with rfl | rfl
    · exact Or.inr rfl
    · exact h

end Dim

namespace Shape

variable {a a' b b' c' s s' : Shape}

/-- The shapes have the same rank, and all extents that the second fixes are those of the first. -/
def Refines (s' s : Shape) : Prop := List.Forall₂ Dim.Refines s'.dims s.dims

instance (s' s : Shape) : Decidable (s'.Refines s) :=
  inferInstanceAs (Decidable (List.Forall₂ Dim.Refines s'.dims s.dims))

theorem Refines.refl (s : Shape) : s.Refines s := List.forall₂_same.2 fun d _ => Dim.Refines.refl d

theorem Refines.rank_eq (h : s'.Refines s) : s'.rank = s.rank := h.length_eq

/-- Padding keeps refinement, as the ones in front are the same. -/
theorem Refines.padTo (h : s'.Refines s) (rank : Nat) :
    List.Forall₂ Dim.Refines (s'.padTo rank) (s.padTo rank) := by
  rw [Shape.padTo, Shape.padTo, h.rank_eq]
  have hones : List.Forall₂ Dim.Refines (List.replicate (rank - s.rank) (.fixed 1))
      (List.replicate (rank - s.rank) (.fixed 1)) :=
    List.forall₂_same.2 fun d _ => Dim.Refines.refl d
  exact List.rel_append hones h

/-- Shapes broadcast if their padded dimensions do, pair by pair. -/
theorem broadcast?_eq_some_iff : a.broadcast? b = some s ↔
    List.Forall₂ (fun p d => p.1.broadcast? p.2 = some d)
      ((a.padTo (max a.rank b.rank)).zip (b.padTo (max a.rank b.rank))) s.dims := by
  simp only [broadcast?, Option.bind_eq_bind, Option.bind_eq_some_iff, mapM_eq_some_iff,
    Option.pure_def, Option.some.injEq]
  constructor
  · rintro ⟨ds, hds, rfl⟩
    exact hds
  · intro hds
    exact ⟨s.dims, hds, rfl⟩

/-- What broadcasts does so when shapes are replaced by coarser ones, and to a coarser shape. -/
theorem Refines.broadcast? (ha : a'.Refines a) (hb : b'.Refines b)
    (h : a'.broadcast? b' = some c') : ∃ c, a.broadcast? b = some c ∧ c'.Refines c := by
  rw [broadcast?_eq_some_iff, ha.rank_eq, hb.rank_eq] at h
  have hpadded := forall₂_zip_zip (ha.padTo (max a.rank b.rank)) (hb.padTo (max a.rank b.rank))
  obtain ⟨ds, hds, hrefines⟩ := exists_forall₂_of_step
    (fun p' p d' hp hd' => hp.1.broadcast? hp.2 hd') hpadded h
  exact ⟨⟨ds⟩, broadcast?_eq_some_iff.2 hds, hrefines⟩

/-- The same of several shapes, one after the other. -/
theorem Refines.foldlM_broadcast? {rest rest' : List Shape} (ha : a'.Refines a)
    (hrest : List.Forall₂ Refines rest' rest) (h : rest'.foldlM Shape.broadcast? a' = some c') :
    ∃ c, rest.foldlM Shape.broadcast? a = some c ∧ c'.Refines c := by
  induction hrest generalizing a a' with
  | nil =>
    obtain rfl := Option.some.inj h
    exact ⟨a, rfl, ha⟩
  | cons hb _ ih =>
    rw [List.foldlM_cons, Option.bind_eq_bind, Option.bind_eq_some_iff] at h
    obtain ⟨joined', hjoined', hrest'⟩ := h
    obtain ⟨joined, hjoined, hrefines⟩ := ha.broadcast? hb hjoined'
    rw [List.foldlM_cons, hjoined]
    exact ih hrefines hrest'

/-- What is compatible stays so when shapes are replaced by coarser ones. -/
theorem Refines.compatible (ha : a'.Refines a) (hb : b'.Refines b) (h : a'.compatible b') :
    a.compatible b := by
  simp only [Shape.compatible, Bool.and_eq_true, beq_iff_eq, List.all_eq_true] at h ⊢
  obtain ⟨hrank, hdims⟩ := h
  refine ⟨by rw [← ha.rank_eq, ← hb.rank_eq, hrank], fun p hp => ?_⟩
  obtain ⟨p', hp', hrefines⟩ := exists_mem_of_forall₂ (forall₂_zip_zip ha hb).flip p hp
  exact hrefines.1.compatible hrefines.2 (hdims p' hp')

end Shape

end OpGraph
