import OpGraph.Shape.Basic
import Mathlib.Algebra.BigOperators.Group.List.Basic
import Mathlib.Algebra.Order.Ring.Nat
import Mathlib.Data.List.Perm.Basic
import Mathlib.Data.List.TakeWhile

/-!
# Counting elements

Extents are multiplied from the outermost dimension inwards, and the count is given up as soon as a
product does not fit into 64 bits. A later extent of zero would bring the product back to zero, but
by then it is too late. So what has to fit is the product of the extents before the first zero, and
only where it does not, although there is a zero behind it, the count is missing without need.
-/

namespace OpGraph

namespace Shape

variable {s t : Shape} {extents : List UInt64} {a b p : UInt64}

/-- The product of extents, whether or not it fits into 64 bits. -/
def product (extents : List UInt64) : Nat := (extents.map UInt64.toNat).prod

/-- The extents up to the first zero. -/
def beforeZero (extents : List UInt64) : List UInt64 := extents.takeWhile fun e => e ≠ 0

/-- The shape has a count exactly if its dimensions are fixed and the product of its extents fits
into 64 bits, and that product is the count. -/
def CountsExactly (s : Shape) : Prop :=
  ∀ p : UInt64, s.elementCount? = some p ↔
    ∃ extents, s = ofExtents extents ∧ p.toNat = product extents

@[simp] theorem product_nil : product [] = 1 := rfl

@[simp] theorem product_cons (e : UInt64) (extents : List UInt64) :
    product (e :: extents) = e.toNat * product extents := by
  simp [product]

theorem product_pos (h : 0 ∉ extents) : 0 < product extents := by
  induction extents with
  | nil => exact Nat.one_pos
  | cons e extents ih =>
    rw [List.mem_cons, not_or] at h
    have hpos : 0 < e.toNat := Nat.pos_of_ne_zero fun hzero => h.1 (UInt64.toNat_inj.1 hzero.symm)
    rw [product_cons]
    exact Nat.mul_pos hpos (ih h.2)

theorem product_eq_zero (h : 0 ∈ extents) : product extents = 0 := by
  induction extents with
  | nil => cases h
  | cons e extents ih =>
    rw [product_cons]
    rcases List.mem_cons.1 h with rfl | h
    · exact Nat.zero_mul _
    · rw [ih h, Nat.mul_zero]

theorem product_perm {extents' : List UInt64} (h : extents.Perm extents') :
    product extents = product extents' :=
  (h.map UInt64.toNat).prod_eq

theorem zero_not_mem_beforeZero : 0 ∉ beforeZero extents := by
  intro h
  simpa using List.mem_takeWhile_imp h

theorem beforeZero_eq_self (h : 0 ∉ extents) : beforeZero extents = extents := by
  refine List.takeWhile_eq_self_iff.2 fun e he => decide_eq_true ?_
  rintro rfl
  exact h he

section Multiplication

/-- A product of two numbers is there if it fits, and is then the exact one. There is no third case,
as one number has to stand for it. -/
theorem mul?_eq_some_iff : mul? a b = some p ↔ p.toNat = a.toNat * b.toNat := by
  rw [mul?]
  split
  next hfits =>
    have hmod : (a * b).toNat = a.toNat * b.toNat := by
      rw [UInt64.toNat_mul]
      exact Nat.mod_eq_of_lt hfits
    rw [Option.some.injEq, ← UInt64.toNat_inj, hmod, eq_comm]
  next hlarge =>
    refine iff_of_false (by simp) fun hp => hlarge ?_
    rw [← hp]
    exact p.toNat_lt_size

/-- Multiplying goes well as long as no zero has come, and what comes behind a zero does no harm. -/
theorem foldlM_mul?_eq_some_iff : extents.foldlM mul? a = some p ↔
    a.toNat * product (beforeZero extents) < UInt64.size ∧ p.toNat = a.toNat * product extents := by
  induction extents generalizing a with
  | nil =>
    have hfits : a.toNat < UInt64.size := a.toNat_lt_size
    simp [beforeZero, hfits, ← UInt64.toNat_inj, eq_comm]
  | cons e extents ih =>
    simp only [List.foldlM_cons, Option.bind_eq_bind, Option.bind_eq_some_iff, mul?_eq_some_iff, ih,
      product_cons]
    by_cases hzero : e = 0
    · subst hzero
      have hstop : beforeZero (0 :: extents) = [] := by simp [beforeZero]
      have hsize : a.toNat < UInt64.size := a.toNat_lt_size
      rw [hstop, product_nil, Nat.mul_one]
      constructor
      · rintro ⟨c, hc, -, hp⟩
        exact ⟨hsize, by simpa [hc] using hp⟩
      · rintro ⟨-, hp⟩
        exact ⟨0, by simp, by simp [UInt64.size], by simpa using hp⟩
    · have hgo : beforeZero (e :: extents) = e :: beforeZero extents := by simp [beforeZero, hzero]
      have hpos : 0 < product (beforeZero extents) := product_pos zero_not_mem_beforeZero
      rw [hgo, product_cons, ← Nat.mul_assoc, ← Nat.mul_assoc]
      constructor
      · rintro ⟨c, hc, hfits, hp⟩
        rw [← hc]
        exact ⟨hfits, hp⟩
      · rintro ⟨hfits, hp⟩
        -- the factors that follow are not zero, so the product so far fits as well
        have hsofar : a.toNat * e.toNat < UInt64.size :=
          lt_of_le_of_lt (Nat.le_mul_of_pos_right _ hpos) hfits
        have hc : (UInt64.ofNat (a.toNat * e.toNat)).toNat = a.toNat * e.toNat :=
          UInt64.toNat_ofNat_of_lt' hsofar
        exact ⟨_, hc, by rwa [hc], by rwa [hc]⟩

end Multiplication

/-- The count is missing where a dimension is dynamic; otherwise the extents are multiplied one
after the other. -/
theorem foldlM_extents_eq_some_iff {dims : List Dim} :
    dims.foldlM (fun count d => d.extent?.bind (mul? count)) a = some p ↔
      ∃ extents : List UInt64, extents.map Dim.fixed = dims ∧ extents.foldlM mul? a = some p := by
  induction dims generalizing a with
  | nil => simp
  | cons d dims ih =>
    simp only [List.foldlM_cons, Option.bind_eq_bind, Option.bind_eq_some_iff, ih]
    cases d with
    | dynamic =>
      constructor
      · rintro ⟨c, ⟨⟨e, hdynamic, -⟩, -⟩⟩
        cases hdynamic
      · rintro ⟨_ | ⟨e, extents⟩, hdims, -⟩ <;> simp at hdims
    | fixed e =>
      constructor
      · rintro ⟨c, ⟨e', he', hc⟩, extents, rfl, hp⟩
        obtain rfl := Option.some.inj he'
        exact ⟨e :: extents, rfl, Option.bind_eq_some_iff.2 ⟨c, hc, hp⟩⟩
      · rintro ⟨_ | ⟨e', extents⟩, hdims, hp⟩
        · cases hdims
        · obtain ⟨rfl, rfl⟩ : e' = e ∧ extents.map Dim.fixed = dims := by simpa using hdims
          obtain ⟨c, hc, hp⟩ := Option.bind_eq_some_iff.1 hp
          exact ⟨c, ⟨e', rfl, hc⟩, extents, rfl, hp⟩

theorem ofExtents_inj {extents' : List UInt64} :
    ofExtents extents = ofExtents extents' ↔ extents = extents' := by
  have hinjective : Function.Injective Dim.fixed := fun _ _ h => Dim.fixed.inj h
  rw [ofExtents, ofExtents, mk.injEq, List.map_inj_right hinjective]

/-- A count is there if all dimensions are fixed and the product of the extents before the first
zero fits, and is then the product of all extents. -/
theorem elementCount?_eq_some_iff : s.elementCount? = some p ↔
    ∃ extents, s = ofExtents extents ∧ product (beforeZero extents) < UInt64.size ∧
      p.toNat = product extents := by
  rw [elementCount?, foldlM_extents_eq_some_iff]
  refine exists_congr fun extents => ?_
  have hdims : extents.map Dim.fixed = s.dims ↔ s = ofExtents extents := by
    cases s
    simp [ofExtents, eq_comm]
  rw [foldlM_mul?_eq_some_iff, UInt64.toNat_one, Nat.one_mul, Nat.one_mul, hdims]

/-- A shape is counted exactly if the product before the first zero fits, where there is a zero. -/
theorem CountsExactly.of_fits
    (h : ∀ extents, s = ofExtents extents → 0 ∈ extents →
      product (beforeZero extents) < UInt64.size) :
    s.CountsExactly := by
  intro p
  rw [elementCount?_eq_some_iff]
  refine exists_congr fun extents => and_congr_right fun hs => and_iff_right_of_imp fun hp => ?_
  by_cases hzero : 0 ∈ extents
  · exact h extents hs hzero
  · rw [beforeZero_eq_self hzero, ← hp]
    exact p.toNat_lt_size

/-- And only then: otherwise the product is zero and fits, but the count is missing. -/
theorem countsExactly_iff : s.CountsExactly ↔ ∀ extents, s = ofExtents extents → 0 ∈ extents →
    product (beforeZero extents) < UInt64.size := by
  refine ⟨fun h extents hs hzero => ?_, CountsExactly.of_fits⟩
  -- the product is zero and fits, so it has to be counted
  have hp : (0 : UInt64).toNat = product extents := (product_eq_zero hzero).symm
  obtain ⟨extents', hs', hfits, -⟩ := elementCount?_eq_some_iff.1 ((h 0).2 ⟨extents, hs, hp⟩)
  rwa [ofExtents_inj.1 (hs.symm.trans hs')]

theorem countsExactly_of_forall_ne (h : ∀ d ∈ s.dims, d ≠ .fixed 0) : s.CountsExactly := by
  refine CountsExactly.of_fits fun extents hs hzero => ?_
  exact absurd rfl (h (.fixed 0) (hs ▸ List.mem_map_of_mem hzero))

/-- Shapes with the same dimensions in another order have the same product, if they have one. -/
theorem exists_product_iff_of_perm (h : s.dims.Perm t.dims) :
    (∃ extents, s = ofExtents extents ∧ p.toNat = product extents) ↔
      ∃ extents, t = ofExtents extents ∧ p.toNat = product extents := by
  have hforward : ∀ {s t : Shape}, s.dims.Perm t.dims →
      (∃ extents, s = ofExtents extents ∧ p.toNat = product extents) →
      ∃ extents, t = ofExtents extents ∧ p.toNat = product extents := by
    rintro s ⟨dims⟩ hperm ⟨extents, rfl, hp⟩
    -- a list that is a permutation of fixed dimensions has only fixed dimensions
    obtain ⟨extents', rfl, hextents⟩ :
        Relation.Comp (fun ds es => ds = List.map Dim.fixed es) List.Perm dims extents := by
      rw [List.eq_map_comp_perm]
      exact hperm.symm
    exact ⟨extents', rfl, hp.trans (product_perm hextents.symm)⟩
  exact ⟨hforward h, hforward h.symm⟩

/-- The count of a shape is there exactly if all dimensions are fixed and the product of the extents
before the first zero fits into 64 bits, and it is the product of all extents. So a shape is counted
exactly unless it has an extent of zero behind others whose product does not fit; where there is no
zero, the order of the dimensions is of no influence. -/
theorem elementCount?_exact (s : Shape) :
    (∀ p : UInt64, s.elementCount? = some p ↔ ∃ extents, s = ofExtents extents ∧
      product (beforeZero extents) < UInt64.size ∧ p.toNat = product extents) ∧
    (s.CountsExactly ↔ ∀ extents, s = ofExtents extents → 0 ∈ extents →
      product (beforeZero extents) < UInt64.size) ∧
    ((∀ d ∈ s.dims, d ≠ .fixed 0) →
      ∀ t : Shape, s.dims.Perm t.dims → s.elementCount? = t.elementCount?) := by
  refine ⟨fun p => elementCount?_eq_some_iff, countsExactly_iff, ?_⟩
  intro hzero t ht
  have hs : s.CountsExactly := countsExactly_of_forall_ne hzero
  have ht' : t.CountsExactly := countsExactly_of_forall_ne fun d hd => hzero d (ht.mem_iff.2 hd)
  refine Option.ext fun p => ?_
  rw [hs p, ht' p]
  exact exists_product_iff_of_perm ht

/-- Eight elements in either order. -/
theorem elementCount?_exact_reordered :
    (∀ d ∈ (ofExtents [2, 4]).dims, d ≠ .fixed 0) ∧
    (ofExtents [2, 4]).dims.Perm (ofExtents [4, 2]).dims ∧
    (ofExtents [2, 4]).elementCount? = some 8 ∧ (ofExtents [4, 2]).elementCount? = some 8 := by
  obtain ⟨hcount, -, hperm⟩ := elementCount?_exact (ofExtents [2, 4])
  have hzero : ∀ d ∈ (ofExtents [2, 4]).dims, d ≠ .fixed 0 := by decide
  have hswap : (ofExtents [2, 4]).dims.Perm (ofExtents [4, 2]).dims := by decide
  have height : (ofExtents [2, 4]).elementCount? = some 8 :=
    (hcount 8).2 ⟨[2, 4], rfl, by decide, by decide⟩
  exact ⟨hzero, hswap, height, (hperm hzero _ hswap).symm.trans height⟩

/-- The product of two extents does not fit, although the third makes it zero; with the zero in
front the same extents are counted. -/
theorem not_countsExactly_zero_behind :
    ¬ (ofExtents [9223372036854775808, 2, 0]).CountsExactly ∧
    (ofExtents [9223372036854775808, 2, 0]).elementCount? = none ∧
    (ofExtents [0, 9223372036854775808, 2]).elementCount? = some 0 := by
  refine ⟨fun h => ?_, by decide, by decide⟩
  have hcount : (ofExtents [9223372036854775808, 2, 0]).elementCount? = some 0 :=
    (h 0).2 ⟨_, rfl, by decide⟩
  exact absurd hcount (by decide)

end Shape

end OpGraph
