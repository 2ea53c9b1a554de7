import Mathlib.Data.List.Basic
import Mathlib.Data.Nat.Digits.Defs
import OpGraph.Numeral

/-!
# The numbers that numerals denote

A decimal numeral is a run of digits, with a sign before it or without one, and denotes the number
that its digits stand for. Leading zeros do not count, so a number has many numerals, but a numeral
has one number. The reader finds it, and the printed form of a number is one of its numerals.
-/

namespace OpGraph.Numeral

variable {cs digits : List Char} {c : Char} {m n : Int}

/-- A non-empty run of decimal digits. -/
def IsDigits (digits : List Char) : Prop := digits ≠ [] ∧ ∀ c ∈ digits, c.isDigit

/-- The number that digits stand for in base ten, the last of them for the units. -/
def value (digits : List Char) : Nat :=
  Nat.ofDigits 10 (digits.reverse.map fun c => c.toNat - '0'.toNat)

/-- The text is a numeral of the number: digits, with a sign before them or without one. -/
inductive Denotes : List Char → Int → Prop where
  | unsigned {digits : List Char} (h : IsDigits digits) : Denotes digits (value digits)
  | plus {digits : List Char} (h : IsDigits digits) : Denotes ('+' :: digits) (value digits)
  | minus {digits : List Char} (h : IsDigits digits) :
      Denotes ('-' :: digits) (-(value digits : Int))

section Reading

/-- The value that the library reads from digits is the sum of the digits by their places. -/
theorem ofDigitChars_eq_value (digits : List Char) :
    Nat.ofDigitChars 10 digits 0 = value digits := by
  rw [Nat.ofDigitChars_eq_foldl, value, Nat.ofDigits_eq_foldr, List.foldr_map, List.foldr_reverse]
  simp only [Nat.add_comm, Nat.cast_id]

/-- A number is read from digits only, and it is their value. -/
theorem nat?_eq_some_iff {n : Nat} : nat? digits = some n ↔ IsDigits digits ∧ value digits = n := by
  rw [nat?, ofDigitChars_eq_value, Option.ite_none_right_eq_some, List.all_eq_true,
    Option.some.injEq, IsDigits]

/-- Digits without a sign are a numeral of their value. -/
theorem int?_of_isDigit (h : ∀ c ∈ cs, c.isDigit) : int? cs = (nat? cs).map Int.ofNat := by
  unfold int?
  split
  · exact absurd (h '+' List.mem_cons_self) (by decide)
  · exact absurd (h '-' List.mem_cons_self) (by decide)
  · rfl

theorem int?_minus (cs : List Char) : int? ('-' :: cs) = (nat? cs).map fun n => -Int.ofNat n := by
  cases h : nat? cs <;> simp [int?, h]

/-- What a numeral denotes is read from it. -/
theorem Denotes.int? (h : Denotes cs n) : Numeral.int? cs = some n := by
  cases h with
  | unsigned h =>
    rw [int?_of_isDigit h.2, nat?_eq_some_iff.2 ⟨h, rfl⟩]
    rfl
  | plus h =>
    rw [Numeral.int?, nat?_eq_some_iff.2 ⟨h, rfl⟩]
    rfl
  | minus h =>
    rw [int?_minus, nat?_eq_some_iff.2 ⟨h, rfl⟩]
    rfl

/-- The number that is read from a text is the one it is a numeral of. -/
theorem int?_eq_some_iff : int? cs = some n ↔ Denotes cs n := by
  refine ⟨fun h => ?_, Denotes.int?⟩
  unfold int? at h
  split at h
  next digits =>
    obtain ⟨_, hvalue, rfl⟩ := Option.map_eq_some_iff.1 h
    obtain ⟨hdigits, rfl⟩ := nat?_eq_some_iff.1 hvalue
    exact .plus hdigits
  next digits =>
    obtain ⟨_, hvalue, rfl⟩ := Option.map_eq_some_iff.1 ((int?_minus digits).symm.trans h)
    obtain ⟨hdigits, rfl⟩ := nat?_eq_some_iff.1 hvalue
    exact .minus hdigits
  next =>
    obtain ⟨_, hvalue, rfl⟩ := Option.map_eq_some_iff.1 h
    obtain ⟨hdigits, rfl⟩ := nat?_eq_some_iff.1 hvalue
    exact .unsigned hdigits

/-- A numeral denotes one integer only. -/
theorem Denotes.unique (hm : Denotes cs m) (hn : Denotes cs n) : m = n :=
  Option.some.inj (hm.int?.symm.trans hn.int?)

/-- The 64-bit value of a number is the one that is this number. -/
theorem toInt64?_eq_some_iff {value : Int64} : toInt64? n = some value ↔ n = value.toInt := by
  rw [toInt64?, Option.ite_none_right_eq_some, Option.some.injEq]
  constructor
  · rintro ⟨⟨hmin, hmax⟩, rfl⟩
    exact (Int64.toInt_ofInt_of_le hmin (Int.lt_of_le_of_lt hmax (by decide))).symm
  · rintro rfl
    exact ⟨⟨value.minValue_le_toInt, value.toInt_le⟩, Int64.ofInt_toInt value⟩

/-- The unsigned 64-bit value of a number is the one that is this number. -/
theorem toUInt64?_eq_some_iff {n : Nat} {value : UInt64} :
    toUInt64? n = some value ↔ n = value.toNat := by
  rw [toUInt64?, Option.ite_none_right_eq_some, Option.some.injEq]
  constructor
  · rintro ⟨hn, rfl⟩
    exact (UInt64.toNat_ofNat_of_lt hn).symm
  · rintro rfl
    exact ⟨value.toNat_lt, UInt64.ofNat_toNat⟩

end Reading

section Characters

theorem Denotes.ne_nil (h : Denotes cs n) : cs ≠ [] := by
  cases h with
  | unsigned h => exact h.1
  | plus h => exact List.cons_ne_nil _ _
  | minus h => exact List.cons_ne_nil _ _

/-- A numeral has no characters but signs and digits. -/
theorem Denotes.sign_or_isDigit (h : Denotes cs n) (hc : c ∈ cs) :
    c = '+' ∨ c = '-' ∨ c.isDigit := by
  cases h with
  | unsigned h => exact Or.inr (Or.inr (h.2 c hc))
  | plus h => exact (List.mem_cons.1 hc).imp_right fun hc => Or.inr (h.2 c hc)
  | minus h => exact Or.inr ((List.mem_cons.1 hc).imp_right (h.2 c))

end Characters

section Printing

theorem isDigit_of_mem_repr {n : Nat} (hc : c ∈ (Nat.repr n).toList) : c.isDigit := by
  rw [Nat.toList_repr] at hc
  exact Nat.isDigit_of_mem_toDigits (by decide) (by decide) hc

theorem isDigits_repr (n : Nat) : IsDigits (Nat.repr n).toList := by
  refine ⟨?_, fun _ => isDigit_of_mem_repr⟩
  rw [Nat.toList_repr]
  exact Nat.toDigits_ne_nil

/-- The decimal text of a number denotes it. -/
theorem value_repr (n : Nat) : value (Nat.repr n).toList = n := by
  rw [← ofDigitChars_eq_value, Nat.toList_repr, Nat.ofDigitChars_toDigits (by decide) (by decide)]

/-- A printed number is a numeral of it. -/
theorem denotes_repr (n : Int) : Denotes (Int.repr n).toList n := by
  cases n with
  | ofNat n =>
    have hrepr := Denotes.unsigned (isDigits_repr n)
    rw [value_repr] at hrepr
    exact hrepr
  | negSucc n =>
    have hrepr := Denotes.minus (isDigits_repr (n + 1))
    have hlist : (Int.repr (Int.negSucc n)).toList = '-' :: (Nat.repr (n + 1)).toList :=
      String.toList_append
    rw [value_repr] at hrepr
    rw [hlist]
    exact hrepr

/-- A number that is printed has no zero in front, unless it is zero. -/
theorem head?_repr_ne_zero {n : Nat} (hn : 0 < n) : (Nat.repr n).toList.head? ≠ some '0' := by
  rw [Nat.toList_repr]
  induction n using Nat.strongRecOn with
  | ind n ih =>
    by_cases hlt : n < 10
    · rw [Nat.toDigits_of_lt_base hlt]
      intro h
      have hchar : n.digitChar.toNat = '0'.toNat := congrArg Char.toNat (Option.some.inj h)
      rw [Nat.toNat_digitChar_of_lt_ten hlt] at hchar
      have hzero : '0'.toNat = 48 := rfl
      omega
    · rw [Nat.toDigits_of_base_le (by decide) (by omega),
        List.head?_append_of_ne_nil _ Nat.toDigits_ne_nil]
      exact ih (n / 10) (by omega) (by omega)

end Printing

end OpGraph.Numeral
