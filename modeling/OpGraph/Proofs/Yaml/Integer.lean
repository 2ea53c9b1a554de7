import OpGraph.Proofs.Numeral
import OpGraph.Yaml.Scalar

/-!
# Scalars that spell integers

A decimal numeral without leading zeros means the number that it denotes, as long as that fits into
64 bits, as a signed or as an unsigned number.
-/

namespace OpGraph

namespace Yaml

open Numeral (IsDigits Denotes)

variable {cs digits : List Char} {text : String} {z : Int}

/-- The text is a decimal numeral of the integer without leading zeros. -/
structure Spells (text : String) (z : Int) : Prop where
  denotes : Denotes text.toList z
  no_leading_zero : hasLeadingZero text.toList = false

theorem ne_cons_of_isDigits {c : Char} (h : IsDigits digits) (hc : c.isDigit = false)
    (cs : List Char) : digits ≠ c :: cs := by
  rintro rfl
  rw [h.2 c List.mem_cons_self] at hc
  cases hc

theorem magnitude?_of_isDigits (h : IsDigits digits) (hzero : hasLeadingZero digits = false) :
    magnitude? digits = some (Numeral.value digits) := by
  -- a marker of another base is no digit
  have hmarker : ∀ c first cs, c.isDigit = false → digits ≠ first :: c :: cs := by
    rintro c first cs hc rfl
    rw [h.2 c (List.mem_cons_of_mem first List.mem_cons_self)] at hc
    cases hc
  unfold magnitude?
  split
  · exact absurd rfl (hmarker 'x' _ _ (by decide))
  · exact absurd rfl (hmarker 'o' _ _ (by decide))
  · exact absurd rfl (hmarker 'b' _ _ (by decide))
  · rw [hzero, if_neg Bool.false_ne_true]
    exact Numeral.nat?_eq_some_iff.2 ⟨h, rfl⟩

/-- A sign makes no difference to the zeros behind it. -/
theorem hasLeadingZero_sign {c : Char} (hc : c = '+' ∨ c = '-') (h : IsDigits digits) :
    hasLeadingZero (c :: digits) = hasLeadingZero digits := by
  cases digits with
  | nil => exact absurd rfl h.1
  | cons d rest =>
    have hsign : ∀ c : Char, c.isDigit = false → d ≠ c := by
      rintro c hc rfl
      exact ne_cons_of_isDigits h hc rest rfl
    by_cases hd : d = '0'
    · subst hd
      rcases hc with rfl | rfl <;> cases rest <;> simp [hasLeadingZero]
    · rcases hc with rfl | rfl <;> simp [hasLeadingZero, hd, hsign]

theorem hasLeadingZero_of_head? (h : IsDigits digits) (hhead : digits.head? ≠ some '0') :
    hasLeadingZero digits = false := by
  unfold hasLeadingZero
  split
  · exact absurd rfl (ne_cons_of_isDigits h (by decide) _)
  · exact absurd rfl (ne_cons_of_isDigits h (by decide) _)
  · exact absurd rfl hhead
  · rfl

/-- The decimal text of an integer spells it. -/
theorem spells_repr (z : Int) : Spells (Int.repr z) z where
  denotes := Numeral.denotes_repr z
  no_leading_zero := by
    cases z with
    | ofNat n =>
      show hasLeadingZero (Nat.repr n).toList = false
      by_cases hn : n = 0
      · subst hn
        rfl
      · exact hasLeadingZero_of_head? (Numeral.isDigits_repr n)
          (Numeral.head?_repr_ne_zero (Nat.pos_of_ne_zero hn))
    | negSucc n =>
      have hlist : (Int.repr (Int.negSucc n)).toList = '-' :: (Nat.repr (n + 1)).toList :=
        String.toList_append
      have hdigits := Numeral.isDigits_repr (n + 1)
      rw [hlist, hasLeadingZero_sign (Or.inr rfl) hdigits]
      exact hasLeadingZero_of_head? hdigits (Numeral.head?_repr_ne_zero n.succ_pos)

/-- An integer without a minus sign is unsigned as long as it fits into 64 bits. -/
theorem exists_unsigned_of_unsigned? {n : Nat} (h : unsigned? cs = some n) (hn : n < 2 ^ 64) :
    ∃ u : UInt64, integer? cs = some (.unsigned u) ∧ u.toNat = n := by
  have hu : (UInt64.ofNat n).toNat = n := UInt64.toNat_ofNat_of_lt hn
  exact ⟨_, by simp [integer?, h, Numeral.toUInt64?_eq_some_iff.2 hu.symm], hu⟩

/-- An integer with a minus sign is signed as long as it fits into 64 bits. -/
theorem exists_negative_of_negative? {n : Int} (h : unsigned? cs = none)
    (hn : negative? cs = some n) (hmin : -2 ^ 63 ≤ n) (hmax : n < 2 ^ 63) :
    ∃ x : Int64, integer? cs = some (.negative x) ∧ x.toInt = n := by
  have hx : (Int64.ofInt n).toInt = n := Int64.toInt_ofInt_of_le hmin hmax
  exact ⟨_, by simp [integer?, h, hn, Numeral.toInt64?_eq_some_iff.2 hx.symm], hx⟩

/-- An integer that fits into 64 bits is read from a numeral of it, as a signed number if the
numeral has a minus sign. -/
theorem integer?_of_denotes (h : Denotes cs z) (hzero : hasLeadingZero cs = false)
    (hmin : -2 ^ 63 ≤ z) (hmax : z < 2 ^ 64) :
    (∃ u : UInt64, integer? cs = some (.unsigned u) ∧ u.toNat = z) ∨
      ∃ x : Int64, integer? cs = some (.negative x) ∧ x.toInt = z := by
  cases h with
  | unsigned h =>
    have hread : unsigned? cs = some (Numeral.value cs) := by
      unfold unsigned?
      split
      next cs => exact absurd rfl (ne_cons_of_isDigits h (by decide) cs)
      next => exact magnitude?_of_isDigits h hzero
    obtain ⟨u, hu, hvalue⟩ := exists_unsigned_of_unsigned? hread (by omega)
    exact Or.inl ⟨u, hu, congrArg Nat.cast hvalue⟩
  | @plus digits h =>
    have hread : unsigned? ('+' :: digits) = some (Numeral.value digits) :=
      magnitude?_of_isDigits h ((hasLeadingZero_sign (Or.inl rfl) h).symm.trans hzero)
    obtain ⟨u, hu, hvalue⟩ := exists_unsigned_of_unsigned? hread (by omega)
    exact Or.inl ⟨u, hu, congrArg Nat.cast hvalue⟩
  | @minus digits h =>
    -- the reading as an unsigned number comes first, and takes no sign
    have hnone : unsigned? ('-' :: digits) = none := by
      show (if hasLeadingZero ('-' :: digits) then none else Numeral.nat? ('-' :: digits)) = none
      simp [Numeral.nat?]
    have hread : negative? ('-' :: digits) = some (-(Numeral.value digits : Int)) := by
      rw [negative?,
        magnitude?_of_isDigits h ((hasLeadingZero_sign (Or.inr rfl) h).symm.trans hzero)]
      rfl
    exact Or.inr (exists_negative_of_negative? hnone hread hmin (by omega))

/-- A numeral is none of some names that are no numerals. -/
theorem contains_eq_false_of_denotes (h : Denotes cs z) {names : List (List Char)}
    (hnames : ∀ name ∈ names, Numeral.int? name = none) : names.contains cs = false := by
  rw [List.contains_eq_mem, decide_eq_false_iff_not]
  intro hcs
  have hnone : Numeral.int? cs = none := hnames cs hcs
  rw [h.int?] at hnone
  cases hnone

/-- No spelling of a null or of a truth value is a numeral. -/
theorem plainMeaning_of_denotes (h : Denotes text.toList z) {m : Meaning}
    (hm : integer? text.toList = some m) : plainMeaning text = m := by
  have hnull : isNull text.toList = false := contains_eq_false_of_denotes h (by decide)
  have hbool : bool? text.toList = none := by
    rw [bool?, contains_eq_false_of_denotes h (by decide),
      contains_eq_false_of_denotes h (by decide)]
    rfl
  simp only [plainMeaning, h.ne_nil, hnull, hbool, hm, Bool.false_eq_true, or_self, if_false]

end Yaml

end OpGraph
