import OpGraph.Proofs.Shape.Alignment

/-!
# Instances of shapes

A shape with dynamic dimensions stands for all fixed shapes that refine it, its instances.
Broadcasting such shapes says as much about their instances as can be said: whatever instances
broadcast to is an instance of the result, every instance of the result comes about so, and if there
is no result then no instances broadcast at all.
-/

namespace OpGraph

namespace Dim

variable {a b c e : Dim}

/-- The dimension itself if it is fixed, and the other one in place of a dynamic one. -/
def fillFrom : Dim → Dim → Dim
  | fixed n, _ => fixed n
  | dynamic, e => e

theorem fillFrom_refines (d e : Dim) : (d.fillFrom e).Refines d := by
  cases d with
  | fixed n => exact Or.inr rfl
  | dynamic => exact Or.inl rfl

theorem isFixed_fillFrom (he : e.isFixed) (d : Dim) : (d.fillFrom e).isFixed := by
  cases d with
  | fixed n => rfl
  | dynamic => exact he

/-- Only ones and dynamic dimensions broadcast to a dynamic one. -/
theorem broadcast?_eq_dynamic_iff : a.broadcast? b = some dynamic ↔
    (a = dynamic ∧ (b = dynamic ∨ b = fixed 1)) ∨ (a = fixed 1 ∧ b = dynamic) := by
  grind [broadcast?_eq]

/-- What a dynamic dimension and another one broadcast to absorbs the other one. -/
theorem broadcast?_of_dynamic (h : dynamic.broadcast? b = some c) : c.broadcast? b = some c := by
  grind [broadcast?_eq]

/-- If an extent is put for every dynamic dimension, what is dynamic in the result becomes that
extent. -/
theorem fillFrom_broadcast?_fillFrom (h : a.broadcast? b = some c) (hec : e.Refines c) :
    (a.fillFrom e).broadcast? (b.fillFrom e) = some e := by
  rcases hec with rfl | rfl
  · rcases broadcast?_eq_dynamic_iff.1 h with ⟨rfl, rfl | rfl⟩ | ⟨rfl, rfl⟩
    · exact broadcast?_self e
    · exact broadcast?_one e
    · exact one_broadcast? e
  · -- the result is the extent itself, which absorbs the side that is not dynamic
    cases a with
    | fixed m =>
      cases b with
      | fixed n => exact h
      | dynamic =>
        rw [broadcast?_comm] at h ⊢
        exact broadcast?_of_dynamic h
    | dynamic =>
      cases b with
      | fixed n => exact broadcast?_of_dynamic h
      | dynamic => exact broadcast?_self e

end Dim

namespace Shape

variable {a b s : Shape}

/-- A fixed shape that says no less than the other one. -/
def IsInstance (s' s : Shape) : Prop := s'.isFixed ∧ s'.Refines s

instance (s' s : Shape) : Decidable (s'.IsInstance s) :=
  inferInstanceAs (Decidable (s'.isFixed ∧ s'.Refines s))

/-- A fixed shape provides extents for the dynamic dimensions of any shape, place by place. -/
theorem exists_isInstance_fillFrom (a : Shape) (hs : s.isFixed) :
    ∃ a' : Shape, a'.IsInstance a ∧ ∀ i, a'.fromEnd i = (a.fromEnd i).fillFrom (s.fromEnd i) := by
  obtain ⟨a', hrank, ha'⟩ := exists_fromEnd a.rank
    (fun i => (a.fromEnd i).fillFrom (s.fromEnd i)) (fun i hi => by rw [fromEnd_of_le hi]; rfl)
  refine ⟨a', ⟨isFixed_iff_fromEnd.2 fun i => ?_, refines_iff_fromEnd.2 ⟨hrank, fun i => ?_⟩⟩, ha'⟩
  · rw [ha' i]
    exact Dim.isFixed_fillFrom (isFixed_iff_fromEnd.1 hs i) _
  · rw [ha' i]
    exact Dim.fillFrom_refines _ _

/-- Refinements of two shapes broadcast only if these do, and to a refinement of their result. Every
instance of the result is what some instances of the two broadcast to, and if there is no result, no
instances of them broadcast. -/
theorem broadcast_exact (a b : Shape) :
    (∀ a' b' c' : Shape, a'.Refines a → b'.Refines b → a'.broadcast? b' = some c' →
      ∃ c, a.broadcast? b = some c ∧ c'.Refines c) ∧
    (∀ c s : Shape, a.broadcast? b = some c → s.IsInstance c →
      ∃ a' b' : Shape, a'.IsInstance a ∧ b'.IsInstance b ∧ a'.broadcast? b' = some s) ∧
    (a.broadcast? b = none → ∀ a' b' : Shape, a'.IsInstance a → b'.IsInstance b →
      a'.broadcast? b' = none) := by
  refine ⟨fun a' b' c' ha hb h => ha.broadcast? hb h, ?_, ?_⟩
  · rintro c s h ⟨hfixed, hrefines⟩
    obtain ⟨hrank, hplaces⟩ := broadcast?_eq_some_iff_fromEnd.1 h
    obtain ⟨hranks, hrefinesPlaces⟩ := refines_iff_fromEnd.1 hrefines
    obtain ⟨a', ha', ha'place⟩ := exists_isInstance_fillFrom a hfixed
    obtain ⟨b', hb', hb'place⟩ := exists_isInstance_fillFrom b hfixed
    refine ⟨a', b', ha', hb', broadcast?_eq_some_iff_fromEnd.2 ⟨?_, fun i => ?_⟩⟩
    · rw [hranks, hrank, ha'.2.rank_eq, hb'.2.rank_eq]
    · rw [ha'place i, hb'place i]
      exact Dim.fillFrom_broadcast?_fillFrom (hplaces i) (hrefinesPlaces i)
  · intro hnone a' b' ha' hb'
    cases h : a'.broadcast? b' with
    | none => rfl
    | some c' =>
      obtain ⟨c, hc, -⟩ := ha'.2.broadcast? hb'.2 h
      rw [hnone] at hc
      cases hc

/-- Dynamic dimensions against an extent and against padding, and two extents that do not go
together. -/
theorem broadcast_exact_padded :
    (Refines ⟨[.fixed 1, .fixed 3]⟩ ⟨[.dynamic, .fixed 3]⟩ ∧ Refines ⟨[.fixed 3]⟩ ⟨[.dynamic]⟩ ∧
      ∃ c, broadcast? ⟨[.dynamic, .fixed 3]⟩ ⟨[.dynamic]⟩ = some c ∧
        Refines ⟨[.fixed 1, .fixed 3]⟩ c) ∧
    (IsInstance ⟨[.fixed 7, .fixed 3]⟩ ⟨[.dynamic, .fixed 3]⟩ ∧
      ∃ a' b' : Shape, a'.IsInstance ⟨[.dynamic, .fixed 3]⟩ ∧ b'.IsInstance ⟨[.dynamic]⟩ ∧
        a'.broadcast? b' = some ⟨[.fixed 7, .fixed 3]⟩) ∧
    (IsInstance ⟨[.fixed 0, .fixed 3]⟩ ⟨[.dynamic, .fixed 3]⟩ ∧
      broadcast? ⟨[.fixed 0, .fixed 3]⟩ ⟨[.fixed 2]⟩ = none) := by
  obtain ⟨hsound, htight, -⟩ := broadcast_exact ⟨[.dynamic, .fixed 3]⟩ ⟨[.dynamic]⟩
  obtain ⟨-, -, hnone⟩ := broadcast_exact ⟨[.dynamic, .fixed 3]⟩ ⟨[.fixed 2]⟩
  have hrefines : Refines ⟨[.fixed 1, .fixed 3]⟩ ⟨[.dynamic, .fixed 3]⟩ := by decide
  have hrefines' : Refines ⟨[.fixed 3]⟩ ⟨[.dynamic]⟩ := by decide
  have hresult : IsInstance ⟨[.fixed 7, .fixed 3]⟩ ⟨[.dynamic, .fixed 3]⟩ := by decide
  have hleft : IsInstance ⟨[.fixed 0, .fixed 3]⟩ ⟨[.dynamic, .fixed 3]⟩ := by decide
  have hright : IsInstance ⟨[.fixed 2]⟩ ⟨[.fixed 2]⟩ := by decide
  refine ⟨⟨hrefines, hrefines', ?_⟩, ⟨hresult, ?_⟩, hleft, ?_⟩
  · exact hsound _ _ _ hrefines hrefines' (by decide)
  · exact htight _ _ (by decide) hresult
  · exact hnone (by decide) _ _ hleft hright

end Shape

end OpGraph
