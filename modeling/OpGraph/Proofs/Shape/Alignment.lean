import OpGraph.Proofs.Shape.Refinement
import Mathlib.Data.List.GetD

/-!
# Shapes from the innermost dimension on

Broadcasting aligns shapes at their innermost dimensions and pads the shorter one with ones. Counted
from the innermost dimension, and with ones beyond the outermost, a shape has a dimension at every
place, whatever its rank. Seen so, broadcasting and refinement go place by place, without padding.
-/

namespace OpGraph

namespace Shape

variable {a b s s' : Shape} {i rank : Nat}

/-- The dimension at a place counted from the innermost one. Beyond the outermost are ones. -/
def fromEnd (s : Shape) (i : Nat) : Dim := s.dims.reverse.getD i (.fixed 1)

theorem fromEnd_of_le (hi : s.rank ≤ i) : s.fromEnd i = .fixed 1 := by
  apply List.getD_eq_default
  rw [List.length_reverse]
  exact hi

/-- A padded shape has at each place the dimension counted from the end. -/
theorem padTo_eq_map (hrank : s.rank ≤ rank) :
    s.padTo rank = (List.range rank).reverse.map s.fromEnd := by
  have hreverse : (s.padTo rank).reverse = (List.range rank).map s.fromEnd := by
    apply List.ext_getElem?
    intro i
    rw [padTo, List.reverse_append, List.reverse_replicate, List.getElem?_map]
    by_cases hi : i < s.rank
    · have hlength : i < s.dims.reverse.length := by rwa [List.length_reverse]
      rw [List.getElem?_append_left hlength, List.getElem?_range (by omega), Option.map_some,
        fromEnd, List.getD_eq_getElem _ _ hlength, List.getElem?_eq_getElem hlength]
    · have hlength : s.dims.reverse.length ≤ i := by
        rw [List.length_reverse]
        exact Nat.le_of_not_lt hi
      rw [List.getElem?_append_right hlength, List.getElem?_replicate, List.length_reverse]
      show (if i - s.rank < rank - s.rank then _ else _) = _
      by_cases hplace : i < rank
      · rw [if_pos (by omega), List.getElem?_range hplace, Option.map_some,
          fromEnd_of_le (by omega)]
      · rw [if_neg (by omega), List.getElem?_eq_none (by simpa using hplace)]
        rfl
  rw [List.map_reverse, ← hreverse, List.reverse_reverse]

theorem dims_eq_map (s : Shape) : s.dims = (List.range s.rank).reverse.map s.fromEnd := by
  rw [← padTo_eq_map (Nat.le_refl s.rank), padTo, Nat.sub_self]
  rfl

/-- There is a shape with given dimensions at all places below its rank. -/
theorem exists_fromEnd (rank : Nat) (d : Nat → Dim) (hd : ∀ i, rank ≤ i → d i = .fixed 1) :
    ∃ s : Shape, s.rank = rank ∧ ∀ i, s.fromEnd i = d i := by
  refine ⟨⟨(List.range rank).reverse.map d⟩, by simp [Shape.rank], fun i => ?_⟩
  rw [fromEnd, ← List.map_reverse, List.reverse_reverse]
  by_cases hi : i < rank
  · rw [List.getD_eq_getElem _ _ (by simpa using hi), List.getElem_map, List.getElem_range]
  · rw [List.getD_eq_default _ _ (by simpa using hi), hd i (Nat.le_of_not_lt hi)]

/-- Lists of one entry for each place below a rank are related entry by entry if they are so at all
places. -/
theorem forall₂_places_iff {α β : Type} {R : α → β → Prop} {f : Nat → α} {f' : Nat → β}
    (hbeyond : ∀ i, rank ≤ i → R (f i) (f' i)) :
    List.Forall₂ R ((List.range rank).reverse.map f) ((List.range rank).reverse.map f') ↔
      ∀ i, R (f i) (f' i) := by
  rw [List.forall₂_map_left_iff, List.forall₂_map_right_iff, List.forall₂_same]
  simp only [List.mem_reverse, List.mem_range]
  constructor
  · intro h i
    by_cases hi : i < rank
    · exact h i hi
    · exact hbeyond i (Nat.le_of_not_lt hi)
  · intro h i _
    exact h i

/-- Two shapes broadcast to a third one of the greater rank that is what they broadcast to at every
place. -/
theorem broadcast?_eq_some_iff_fromEnd : a.broadcast? b = some s ↔
    s.rank = max a.rank b.rank ∧
      ∀ i, (a.fromEnd i).broadcast? (b.fromEnd i) = some (s.fromEnd i) := by
  rw [broadcast?_eq_some_iff, padTo_eq_map (Nat.le_max_left a.rank b.rank),
    padTo_eq_map (Nat.le_max_right a.rank b.rank), List.zip_map', s.dims_eq_map]
  constructor
  · intro h
    have hrank : s.rank = max a.rank b.rank := by simpa using h.length_eq.symm
    rw [hrank, forall₂_places_iff] at h
    · exact ⟨hrank, h⟩
    · intro i hi
      rw [fromEnd_of_le (by omega), fromEnd_of_le (by omega), fromEnd_of_le (by omega)]
      rfl
  · rintro ⟨hrank, h⟩
    rw [hrank]
    refine (forall₂_places_iff ?_).2 h
    intro i _
    exact h i

/-- Two shapes broadcast if they do at every place. -/
theorem exists_broadcast?_iff : (∃ s, a.broadcast? b = some s) ↔
    ∀ i, ∃ d, (a.fromEnd i).broadcast? (b.fromEnd i) = some d := by
  constructor
  · rintro ⟨s, hs⟩ i
    exact ⟨s.fromEnd i, (broadcast?_eq_some_iff_fromEnd.1 hs).2 i⟩
  · intro h
    choose d hd using h
    have hone : ∀ i, max a.rank b.rank ≤ i → d i = .fixed 1 := by
      intro i hi
      have hi' := hd i
      rw [fromEnd_of_le (by omega), fromEnd_of_le (by omega)] at hi'
      exact (Option.some.inj hi').symm
    obtain ⟨s, hrank, hs⟩ := exists_fromEnd (max a.rank b.rank) d hone
    exact ⟨s, broadcast?_eq_some_iff_fromEnd.2 ⟨hrank, fun i => (hd i).trans (by rw [hs i])⟩⟩

/-- Refinement goes place by place, between shapes of one rank. -/
theorem refines_iff_fromEnd : s'.Refines s ↔
    s'.rank = s.rank ∧ ∀ i, (s'.fromEnd i).Refines (s.fromEnd i) := by
  rw [Refines, s.dims_eq_map, s'.dims_eq_map]
  constructor
  · intro h
    have hrank : s'.rank = s.rank := by simpa using h.length_eq
    rw [hrank] at h
    refine ⟨hrank, (forall₂_places_iff fun i hi => ?_).1 h⟩
    rw [fromEnd_of_le (by omega), fromEnd_of_le hi]
    exact Dim.Refines.refl _
  · rintro ⟨hrank, h⟩
    rw [hrank]
    exact (forall₂_places_iff fun i _ => h i).2 h

/-- A shape is fixed if it is so at every place; the ones beyond it are. -/
theorem isFixed_iff_fromEnd : s.isFixed ↔ ∀ i, (s.fromEnd i).isFixed := by
  rw [isFixed, s.dims_eq_map, List.all_eq_true]
  simp only [List.forall_mem_map, List.mem_reverse, List.mem_range]
  refine ⟨fun h i => ?_, fun h i _ => h i⟩
  by_cases hi : i < s.rank
  · exact h i hi
  · rw [fromEnd_of_le (Nat.le_of_not_lt hi)]
    rfl

end Shape

end OpGraph
