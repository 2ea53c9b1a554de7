import OpGraph.Proofs.Shape.Instances
import OpGraph.Proofs.Shape.Semilattice

/-!
# Compatible shapes

Compatible shapes contradict each other nowhere, which is to say that they have a common instance.
Since an instance broadcasts with itself, they broadcast, and what they broadcast to has the same
instance.
-/

namespace OpGraph

namespace Dim

variable {a b d s : Dim}

theorem compatible_iff : a.compatible b ↔ a = b ∨ a = dynamic ∨ b = dynamic := by
  simp only [compatible, Bool.or_eq_true, beq_iff_eq, or_assoc]

/-- A fixed dimension is compatible with those that it refines. -/
theorem compatible_iff_refines (hs : s.isFixed) : s.compatible d ↔ s.Refines d := by
  have hne : s ≠ dynamic := by
    rintro rfl
    cases hs
  rw [compatible_iff, Refines, or_iff_right hne, or_comm]

/-- A dimension whose gap is filled from a compatible one refines that one too. -/
theorem fillFrom_fillFrom_refines (h : a.compatible b) (d : Dim) :
    (a.fillFrom (b.fillFrom d)).Refines b := by
  cases a with
  | fixed n => exact (compatible_iff_refines rfl).1 h
  | dynamic => exact fillFrom_refines b d

end Dim

namespace Shape

variable {a b s : Shape}

/-- Compatibility goes place by place, between shapes of one rank. -/
theorem compatible_iff_fromEnd : a.compatible b ↔
    a.rank = b.rank ∧ ∀ i, (a.fromEnd i).compatible (b.fromEnd i) := by
  rw [compatible, Bool.and_eq_true, beq_iff_eq, a.dims_eq_map, b.dims_eq_map]
  refine and_congr_right fun hrank => ?_
  rw [hrank, List.zip_map', List.all_map, List.all_eq_true]
  simp only [List.mem_reverse, List.mem_range]
  constructor
  · intro h i
    by_cases hi : i < b.rank
    · exact h i hi
    · rw [fromEnd_of_le (by omega), fromEnd_of_le (by omega), Dim.compatible_self]
  · intro h i _
    exact h i

/-- A fixed shape is compatible with those that it refines. -/
theorem compatible_iff_refines (hs : s.isFixed) : s.compatible a ↔ s.Refines a := by
  rw [compatible_iff_fromEnd, refines_iff_fromEnd]
  simp only [Dim.compatible_iff_refines (isFixed_iff_fromEnd.1 hs _)]

/-- Compatible shapes are those that have a common instance. -/
theorem compatible_iff_exists_isInstance :
    a.compatible b ↔ ∃ s : Shape, s.IsInstance a ∧ s.IsInstance b := by
  constructor
  · intro h
    obtain ⟨hrank, hplaces⟩ := compatible_iff_fromEnd.1 h
    obtain ⟨s, hsrank, hs⟩ := exists_fromEnd a.rank
      (fun i => (a.fromEnd i).fillFrom ((b.fromEnd i).fillFrom (.fixed 1)))
      (fun i hi => by rw [fromEnd_of_le hi]; rfl)
    have hfixed : s.isFixed := by
      refine isFixed_iff_fromEnd.2 fun i => ?_
      rw [hs i]
      exact Dim.isFixed_fillFrom (Dim.isFixed_fillFrom rfl _) _
    refine ⟨s, ⟨hfixed, refines_iff_fromEnd.2 ⟨hsrank, fun i => ?_⟩⟩,
      hfixed, refines_iff_fromEnd.2 ⟨hsrank.trans hrank, fun i => ?_⟩⟩
    · rw [hs i]
      exact Dim.fillFrom_refines _ _
    · rw [hs i]
      exact Dim.fillFrom_fillFrom_refines (hplaces i) _
  · rintro ⟨s, ⟨-, ha⟩, -, hb⟩
    exact ha.compatible hb (compatible_self s)

/-- Two shapes are compatible exactly if some fixed shape is compatible with both of them. Then they
broadcast, and the result is compatible with both of them. -/
theorem compatible_exact (a b : Shape) :
    (a.compatible b ↔ ∃ s : Shape, s.isFixed ∧ s.compatible a ∧ s.compatible b) ∧
    (a.compatible b → ∃ c, a.broadcast? b = some c ∧ c.compatible a ∧ c.compatible b) := by
  constructor
  · rw [compatible_iff_exists_isInstance]
    refine exists_congr fun s => ?_
    simp only [IsInstance, ← and_and_left]
    refine and_congr_right fun hs => ?_
    rw [compatible_iff_refines hs, compatible_iff_refines hs]
  · intro h
    obtain ⟨s, ⟨-, ha⟩, -, hb⟩ := compatible_iff_exists_isInstance.1 h
    obtain ⟨c, hc, hsc⟩ := ha.broadcast? hb (broadcast?_self s)
    exact ⟨c, hc, hsc.compatible ha (compatible_self s), hsc.compatible hb (compatible_self s)⟩

/-- Dynamic dimensions against an extent, against one and against each other. The first shape and
the last are both compatible with the second, but not with each other. -/
theorem compatible_exact_partial :
    compatible ⟨[.dynamic, .fixed 1, .dynamic]⟩ ⟨[.fixed 7, .dynamic, .dynamic]⟩ ∧
    (∃ c, broadcast? ⟨[.dynamic, .fixed 1, .dynamic]⟩ ⟨[.fixed 7, .dynamic, .dynamic]⟩ = some c ∧
      c.compatible ⟨[.dynamic, .fixed 1, .dynamic]⟩ ∧
      c.compatible ⟨[.fixed 7, .dynamic, .dynamic]⟩) ∧
    compatible ⟨[.fixed 7, .dynamic, .dynamic]⟩ ⟨[.fixed 7, .fixed 2, .fixed 0]⟩ ∧
    ¬ ∃ s : Shape, s.isFixed ∧ s.compatible ⟨[.dynamic, .fixed 1, .dynamic]⟩ ∧
      s.compatible ⟨[.fixed 7, .fixed 2, .fixed 0]⟩ := by
  have hcompatible :
      compatible ⟨[.dynamic, .fixed 1, .dynamic]⟩ ⟨[.fixed 7, .dynamic, .dynamic]⟩ := by decide
  obtain ⟨-, hbroadcast⟩ :=
    compatible_exact ⟨[.dynamic, .fixed 1, .dynamic]⟩ ⟨[.fixed 7, .dynamic, .dynamic]⟩
  obtain ⟨hiff, -⟩ :=
    compatible_exact ⟨[.dynamic, .fixed 1, .dynamic]⟩ ⟨[.fixed 7, .fixed 2, .fixed 0]⟩
  exact ⟨hcompatible, hbroadcast hcompatible, by decide, mt hiff.2 (by decide)⟩

end Shape

end OpGraph
