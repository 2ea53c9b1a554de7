import OpGraph.Binary64.Shortest
import OpGraph.Proofs.Numeral
import OpGraph.Proofs.Text.Trim

/-!
# Texts of floating-point numbers

A floating-point number can be told from an integer by its text: a finite number has a decimal point
in it or an exponent behind it, and the others have names. So whole numbers, too, are never written
like integers. Beside digits, letters, points and signs there is nothing in such a text, so it may
stand in a list of items.
-/

namespace OpGraph

variable {c : Char}

/-- A digit, a letter, a point or a sign. -/
def Binary64.isTextChar (c : Char) : Bool := c.isAlphanum || c == '.' || c == '+' || c == '-'

theorem Binary64.isTextChar_of_isDigit (hc : c.isDigit) : isTextChar c := by
  simp [isTextChar, Char.isAlphanum, hc]

namespace Decimal

open Binary64 (isTextChar isTextChar_of_isDigit)

variable {d : Decimal}

/-- Positional texts have a point, for a whole number with a zero behind it. -/
theorem point_mem_positional (d : Decimal) : '.' ∈ d.positional.toList := by
  rw [positional, String.toList_ofList]
  split
  · exact List.mem_cons_of_mem _ List.mem_cons_self
  · split <;> simp

/-- A text that is not positional has an exponent. -/
theorem exponent_mem_scientific (d : Decimal) : 'e' ∈ d.scientific.toList := by
  simp [scientific]

/-- Dropping the zeros at the end of a numeral leaves digits only. -/
theorem isDigit_of_mem_ofScaled {n : Nat} {exponent : Int} (hc : c ∈ (ofScaled n exponent).digits) :
    c.isDigit := by
  obtain ⟨run, -, hdigits⟩ := Text.exists_dropRight_append (· == '0') (Nat.toDigits 10 n)
  have hmem : c ∈ Nat.toDigits 10 n := by
    rw [hdigits]
    exact List.mem_append_left run hc
  exact Nat.isDigit_of_mem_toDigits (by decide) (by decide) hmem

theorem isDigit_of_mem_zeros {n : Int} (hc : c ∈ zeros n) : c.isDigit := by
  rw [List.eq_of_mem_replicate hc]
  rfl

theorem isTextChar_of_mem_positional (hd : ∀ c ∈ d.digits, c.isDigit) :
    ∀ c ∈ d.positional.toList, isTextChar c := by
  have hdigits : ∀ c ∈ d.digits, isTextChar c := fun c hc => isTextChar_of_isDigit (hd c hc)
  have hzeros : ∀ n, ∀ c ∈ zeros n, isTextChar c := fun _ c hc =>
    isTextChar_of_isDigit (isDigit_of_mem_zeros hc)
  have hpoint : isTextChar '.' := by decide
  have hzero : isTextChar '0' := by decide
  rw [positional, String.toList_ofList]
  split
  · simp only [List.forall_mem_append, List.forall_mem_cons]
    exact ⟨⟨hzero, hpoint, hzeros _⟩, hdigits⟩
  · split
    · simp only [List.forall_mem_append, List.forall_mem_cons]
      exact ⟨⟨hdigits, hzeros _⟩, hpoint, hzero, List.forall_mem_nil _⟩
    · rw [List.forall_mem_append, List.forall_mem_cons]
      exact ⟨fun c hc => hdigits c (List.mem_of_mem_take hc), hpoint,
        fun c hc => hdigits c (List.mem_of_mem_drop hc)⟩

theorem isTextChar_of_mem_scientific (hd : ∀ c ∈ d.digits, c.isDigit) :
    ∀ c ∈ d.scientific.toList, isTextChar c := by
  have hdigits : ∀ c ∈ d.digits, isTextChar c := fun c hc => isTextChar_of_isDigit (hd c hc)
  simp only [scientific, String.toList_append, String.toList_ofList, List.forall_mem_append]
  refine ⟨⟨?_, List.all_eq_true.1 (by decide)⟩, ?_⟩
  · split
    next => exact List.forall_mem_nil _
    next hone => exact hone ▸ hdigits
    next hmore =>
      rw [hmore, List.forall_mem_cons] at hdigits
      exact List.forall_mem_cons.2 ⟨hdigits.1, List.forall_mem_cons.2 ⟨by decide, hdigits.2⟩⟩
  · intro c hc
    rcases (Numeral.denotes_repr _).sign_or_isDigit hc with rfl | rfl | hc
    · decide
    · decide
    · exact isTextChar_of_isDigit hc

end Decimal

namespace Binary64

theorem mem_signed {c : Char} {text : String} (negative : Bool) (hc : c ∈ text.toList) :
    c ∈ (signed negative text).toList := by
  cases negative with
  | false => exact hc
  | true =>
    rw [signed, if_pos rfl, String.toList_append]
    exact List.mem_append_right _ hc

/-- The text of a number has a decimal point, an exponent, or a letter of a name in it. -/
theorem exists_mark_mem_text (x : Binary64) :
    ∃ c ∈ x.text.toList, c ≠ '+' ∧ c ≠ '-' ∧ c.isDigit = false := by
  match x with
  | nan => exact ⟨'N', by decide, by decide⟩
  | infinite negative => exact ⟨'i', mem_signed negative (by decide), by decide⟩
  | finite negative 0 => exact ⟨'.', mem_signed negative (by decide), by decide⟩
  | finite negative (units + 1) =>
    simp only [text]
    split
    · exact ⟨'.', mem_signed negative (Decimal.point_mem_positional _), by decide⟩
    · exact ⟨'e', mem_signed negative (Decimal.exponent_mem_scientific _), by decide⟩

/-- The text of a floating-point number is no numeral of an integer. -/
theorem not_denotes_text (x : Binary64) (z : Int) : ¬ Numeral.Denotes x.text.toList z := by
  intro h
  obtain ⟨c, hmem, hplus, hminus, hdigit⟩ := x.exists_mark_mem_text
  rcases h.sign_or_isDigit hmem with rfl | rfl | hc
  · exact hplus rfl
  · exact hminus rfl
  · rw [hdigit] at hc
    cases hc

/-- The shortest text has no characters but digits, whichever of the candidates is taken. -/
theorem isDigit_of_mem_shortest {units : Nat} (hc : c ∈ (shortest units).digits) : c.isDigit := by
  have hsearch : ∀ fuel exponent, c ∈ (searchGrids units fuel exponent).digits → c.isDigit := by
    intro fuel
    induction fuel with
    | zero => exact fun _ => Decimal.isDigit_of_mem_ofScaled
    | succ fuel ih =>
      intro exponent hc
      rw [searchGrids] at hc
      split at hc
      · exact Decimal.isDigit_of_mem_ofScaled hc
      · exact ih _ hc
  exact hsearch _ _ hc

theorem isTextChar_of_mem_signed {text : String} (htext : ∀ c ∈ text.toList, isTextChar c)
    (negative : Bool) : ∀ c ∈ (signed negative text).toList, isTextChar c := by
  cases negative with
  | false => exact htext
  | true =>
    rw [signed, if_pos rfl, String.toList_append, List.forall_mem_append]
    exact ⟨List.all_eq_true.1 (by decide), htext⟩

/-- The text of a number has nothing but digits, letters, points and signs in it. -/
theorem isTextChar_of_mem_text (x : Binary64) : ∀ c ∈ x.text.toList, isTextChar c := by
  match x with
  | nan => exact List.all_eq_true.1 (by decide)
  | infinite negative => exact isTextChar_of_mem_signed (List.all_eq_true.1 (by decide)) negative
  | finite negative 0 => exact isTextChar_of_mem_signed (List.all_eq_true.1 (by decide)) negative
  | finite negative (units + 1) =>
    refine isTextChar_of_mem_signed ?_ negative
    have hdigits : ∀ c ∈ (shortest (units + 1)).digits, c.isDigit :=
      fun _ => isDigit_of_mem_shortest
    split
    · exact Decimal.isTextChar_of_mem_positional hdigits
    · exact Decimal.isTextChar_of_mem_scientific hdigits

end Binary64

end OpGraph
