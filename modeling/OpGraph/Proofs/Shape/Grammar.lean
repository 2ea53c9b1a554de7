import OpGraph.Proofs.Numeral
import OpGraph.Proofs.Shape.Signed
import OpGraph.Proofs.Text.Items
import OpGraph.Shape.Basic

/-!
# The grammar of shape texts

A shape text has blanks, opening brackets and blanks before its inner text, and blanks, closing
brackets and blanks behind it. The inner text is empty, for a scalar, or lists dimensions: question
marks and numerals, with blanks around them. Other texts are refused, for the first item that does
not spell a dimension.

## Main definitions

- `Dim.Spelled`, `Dim.Misspelled`: which dimension an item spells, or what is wrong with it
- `Shape.Spelled`, `Shape.Misspelled`: which shape a text spells, or what is wrong with it

## Main statements

- `Shape.inmost_body`: which text is left when brackets and blanks are dropped
- `Shape.parse_iff_spelled`: what is read from a text
-/

namespace OpGraph

section Characters

variable {c : Char} {cs : List Char} {n : Int}

/-- The character is none of those that stand around items and between them. -/
def Text.IsPlain (c : Char) : Prop := isBlank c = false ∧ c ≠ '[' ∧ c ≠ ']' ∧ c ≠ ','

instance (c : Char) : Decidable (Text.IsPlain c) :=
  inferInstanceAs (Decidable (Text.isBlank c = false ∧ c ≠ '[' ∧ c ≠ ']' ∧ c ≠ ','))

theorem Text.isPlain_of_isDigit (hc : c.isDigit) : IsPlain c := by
  refine ⟨not_isBlank_of_isDigit hc, ?_, ?_, ?_⟩ <;> rintro rfl <;> revert hc <;> decide

theorem Numeral.Denotes.isPlain (h : Denotes cs n) (hc : c ∈ cs) : Text.IsPlain c := by
  rcases h.sign_or_isDigit hc with rfl | rfl | hdigit
  · decide
  · decide
  · exact Text.isPlain_of_isDigit hdigit

end Characters

namespace Dim

open Numeral (Denotes)

variable {d : Dim} {err : ShapeError} {value : Int64} {core item : List Char} {c : Char}

/-- The text is a question mark, or a numeral of the extent or of `-1`. -/
inductive Literal : List Char → Dim → Prop where
  | mark : Literal ['?'] dynamic
  | minusOne {core : List Char} (h : Denotes core (-1)) : Literal core dynamic
  | extent {core : List Char} {extent : UInt64} (h : Denotes core extent.toNat)
      (hfits : (extent.toNat : Int) ≤ Int64.maxValue.toInt) : Literal core (fixed extent)

/-- Why the text is no literal: it is a numeral of a number that is too small, or it is neither a
question mark nor a numeral of any 64-bit number. -/
inductive Fault : List Char → ShapeError → Prop where
  | negative {core : List Char} {value : Int64} (h : Denotes core value.toInt)
      (hvalue : value.toInt < -1) : Fault core (.negativeDim value)
  | invalid {core : List Char} (hmark : core ≠ ['?'])
      (hnumeral : ∀ value : Int64, ¬ Denotes core value.toInt) :
      Fault core (.invalidDim (String.ofList core))

/-- The item is a literal of the dimension with blanks around it. -/
def Spelled (item : List Char) (d : Dim) : Prop := ∃ core, Text.Padded core item ∧ Literal core d

/-- The item without the blanks around it is no literal, for this reason. -/
def Misspelled (item : List Char) (err : ShapeError) : Prop :=
  ∃ core, Text.Inmost (Text.Padded · item) core ∧ Fault core err

section Literals

/-- The question mark is no numeral, so no item spells two dimensions. -/
theorem not_denotes_mark {n : Int} : ¬ Denotes ['?'] n := by
  intro h
  rcases h.sign_or_isDigit (List.mem_singleton_self '?') with h | h | h <;> revert h <;> decide

theorem Literal.ne_nil (h : Literal core d) : core ≠ [] := by
  cases h with
  | mark => exact List.cons_ne_nil _ _
  | minusOne h => exact h.ne_nil
  | extent h => exact h.ne_nil

/-- What spells a dimension has no blanks, brackets or commas in it. -/
theorem Literal.isPlain (h : Literal core d) (hc : c ∈ core) : Text.IsPlain c := by
  cases h with
  | mark =>
    obtain rfl := List.mem_singleton.1 hc
    decide
  | minusOne h => exact h.isPlain hc
  | extent h => exact h.isPlain hc

/-- A numeral in an item is read as a signed number, so its extent fits into one. -/
theorem Literal.fitsSigned (h : Literal core d) : d.FitsSigned := by
  cases h with
  | mark => trivial
  | minusOne => trivial
  | extent _ hfits => exact hfits

theorem literal_mark_iff : Literal ['?'] d ↔ d = dynamic := by
  constructor
  · rintro (_ | h | h)
    · rfl
    · exact absurd h not_denotes_mark
    · exact absurd h not_denotes_mark
  · rintro rfl
    exact .mark

/-- A numeral is a literal of the dimension that its number records. -/
theorem literal_iff_of_denotes (h : Denotes core value.toInt) :
    Literal core d ↔ Records value d := by
  constructor
  · rintro (_ | hminus | ⟨hextent, -⟩)
    · exact absurd h not_denotes_mark
    · exact h.unique hminus
    · exact hextent.unique h
  · intro hd
    cases d with
    | dynamic =>
      have hminus : value.toInt = -1 := hd
      rw [hminus] at h
      exact .minusOne h
    | fixed extent =>
      have hextent : (extent.toNat : Int) = value.toInt := hd
      rw [← hextent] at h
      exact .extent h hd.fitsSigned

/-- A literal that is not a question mark is a numeral of a 64-bit number. -/
theorem Literal.exists_denotes (h : Literal core d) (hmark : core ≠ ['?']) :
    ∃ value : Int64, Denotes core value.toInt := by
  cases h with
  | mark => exact absurd rfl hmark
  | minusOne h => exact ⟨-1, h⟩
  | @extent _ extent h hfits =>
    have hmin : Int64.minValue.toInt ≤ (extent.toNat : Int) :=
      Int.le_trans (by decide) (Int.natCast_nonneg extent.toNat)
    refine ⟨Int64.ofInt extent.toNat, ?_⟩
    rwa [Int64.toInt_ofInt_of_le hmin (Int.lt_of_le_of_lt hfits (by decide))]

/-- A numeral is at fault only if it is less than `-1`. -/
theorem fault_iff_of_denotes (h : Denotes core value.toInt) :
    Fault core err ↔ value.toInt < -1 ∧ err = .negativeDim value := by
  constructor
  · rintro (⟨h', hvalue⟩ | ⟨-, hnumeral⟩)
    · obtain rfl := Int64.toInt_inj.1 (h.unique h')
      exact ⟨hvalue, rfl⟩
    · exact absurd h (hnumeral value)
  · rintro ⟨hvalue, rfl⟩
    exact .negative h hvalue

end Literals

section Reading

theorem parse_of_mark (h : Text.trim item = ['?']) : Dim.parse item = .ok dynamic := by
  rw [parse, if_pos h]

/-- A numeral of a 64-bit number is read as if this number were recorded. -/
theorem parse_of_denotes (h : Denotes (Text.trim item) value.toInt) :
    Dim.parse item = ofRecorded value := by
  have hmark : Text.trim item ≠ ['?'] := by
    intro hmark
    rw [hmark] at h
    exact not_denotes_mark h
  have hvalue : (Numeral.int? (Text.trim item)).bind Numeral.toInt64? = some value := by
    rw [h.int?, Option.bind_some]
    exact Numeral.toInt64?_eq_some_iff.2 rfl
  simp only [parse, if_neg hmark, hvalue]

/-- Other texts than the question mark and numerals of signed 64-bit integers are refused. -/
theorem parse_of_not_denotes (hmark : Text.trim item ≠ ['?'])
    (hnumeral : ∀ value : Int64, ¬ Denotes (Text.trim item) value.toInt) :
    Dim.parse item = .error (.invalidDim (String.ofList (Text.trim item))) := by
  have hvalue : (Numeral.int? (Text.trim item)).bind Numeral.toInt64? = none := by
    refine Option.eq_none_iff_forall_ne_some.2 fun value h => ?_
    obtain ⟨n, hn, hvalue⟩ := Option.bind_eq_some_iff.1 h
    obtain rfl := Numeral.toInt64?_eq_some_iff.1 hvalue
    exact hnumeral value (Numeral.int?_eq_some_iff.1 hn)
  simp only [parse, if_neg hmark, hvalue]

/-- An item spells what is left of it without the blanks around it. -/
theorem spelled_iff_trim : Spelled item d ↔ Literal (Text.trim item) d := by
  constructor
  · rintro ⟨core, hitem, hcore⟩
    rwa [hitem.trim_eq, Text.trim_eq_self fun c hc => (hcore.isPlain hc).1]
  · intro h
    exact ⟨Text.trim item, Text.padded_trim item, h⟩

/-- An item that spells a dimension has no brackets in it. -/
theorem Spelled.ne_of_mem (h : Spelled item d) (hc : c ∈ item) : c ≠ '[' ∧ c ≠ ']' := by
  obtain ⟨core, hitem, hcore⟩ := h
  rcases hitem.isBlank_or_mem hc with hblank | hmem
  · constructor
    · rintro rfl
      exact absurd hblank (by decide)
    · rintro rfl
      exact absurd hblank (by decide)
  · obtain ⟨-, hopen, hclose, -⟩ := hcore.isPlain hmem
    exact ⟨hopen, hclose⟩

theorem misspelled_iff_trim : Misspelled item err ↔ Fault (Text.trim item) err := by
  constructor
  · rintro ⟨core, hcore, hfault⟩
    rwa [(Text.inmost_trim item).unique hcore]
  · intro h
    exact ⟨Text.trim item, Text.inmost_trim item, h⟩

/-- What is read from an item is the dimension it spells. -/
theorem parse_eq_ok_iff : Dim.parse item = .ok d ↔ Spelled item d := by
  rw [spelled_iff_trim]
  by_cases hmark : Text.trim item = ['?']
  · rw [parse_of_mark hmark, hmark, literal_mark_iff, Except.ok.injEq, eq_comm]
  by_cases hnumeral : ∃ value : Int64, Denotes (Text.trim item) value.toInt
  · obtain ⟨value, hvalue⟩ := hnumeral
    rw [parse_of_denotes hvalue, literal_iff_of_denotes hvalue, ofRecorded_eq_ok_iff]
  · have hliteral : ¬ Literal (Text.trim item) d := fun h => hnumeral (h.exists_denotes hmark)
    rw [parse_of_not_denotes hmark (not_exists.1 hnumeral)]
    simp [hliteral]

/-- An item that spells no dimension is refused for what is wrong with it. -/
theorem parse_eq_error_iff : Dim.parse item = .error err ↔ Misspelled item err := by
  rw [misspelled_iff_trim]
  by_cases hmark : Text.trim item = ['?']
  · rw [parse_of_mark hmark, hmark]
    have hfault : ¬ Fault ['?'] err := by
      rintro (⟨h, -⟩ | ⟨h, -⟩)
      · exact not_denotes_mark h
      · exact h rfl
    simp [hfault]
  by_cases hnumeral : ∃ value : Int64, Denotes (Text.trim item) value.toInt
  · obtain ⟨value, hvalue⟩ := hnumeral
    rw [parse_of_denotes hvalue, fault_iff_of_denotes hvalue, ofRecorded_eq_error_iff]
  · rw [parse_of_not_denotes hmark (not_exists.1 hnumeral), Except.error.injEq]
    constructor
    · rintro rfl
      exact .invalid hmark (not_exists.1 hnumeral)
    · rintro (⟨h, -⟩ | -)
      · exact absurd ⟨_, h⟩ hnumeral
      · rfl

end Reading

end Dim

namespace Shape

open Text (Padded Inmost Separated)

variable {s : Shape} {err : ShapeError} {inner cs : List Char}

/-- The second text is the first in blanks, these in brackets, and those in blanks. There may be any
number of brackets on each side. -/
def Wraps (inner cs : List Char) : Prop :=
  ∃ opening padded closing, (∀ c ∈ opening, c = '[') ∧ (∀ c ∈ closing, c = ']') ∧
    Padded inner padded ∧ Padded (opening ++ padded ++ closing) cs

/-- The text is that of a scalar, or it lists what spells the dimensions of the shape. -/
inductive Spelled (cs : List Char) : Shape → Prop where
  | scalar (h : Wraps [] cs) : Spelled cs scalar
  | list {s : Shape} {inner : List Char} {items : List (List Char)} (h : Wraps inner cs)
      (hitems : Separated ',' items inner) (hdims : List.Forall₂ Dim.Spelled items s.dims) :
      Spelled cs s

/-- The text without blanks and brackets has an item that spells no dimension, for this reason, and
the items before it spell dimensions. -/
def Misspelled (cs : List Char) (err : ShapeError) : Prop :=
  ∃ inner, Inmost (Wraps · cs) inner ∧ inner ≠ [] ∧ ∃ before item after,
    Separated ',' (before ++ item :: after) inner ∧ (∀ x ∈ before, ∃ d, Dim.Spelled x d) ∧
      Dim.Misspelled item err

section Brackets

theorem wraps_self (cs : List Char) : Wraps cs cs :=
  ⟨[], cs, [], List.forall_mem_nil _, List.forall_mem_nil _, .refl cs,
    by simpa using Padded.refl cs⟩

/-- What is left when blanks and brackets are dropped stands in every text that is wrapped. -/
theorem inmost_body (cs : List Char) : Inmost (Wraps · cs) (body cs) := by
  constructor
  · obtain ⟨opening, hopening, hcs⟩ := Text.exists_append_dropWhile (· == '[') (Text.trim cs)
    obtain ⟨closing, hclosing, hrest⟩ :=
      Text.exists_dropRight_append (· == ']') ((Text.trim cs).dropWhile (· == '['))
    refine ⟨opening, _, closing, fun c hc => eq_of_beq (hopening c hc),
      fun c hc => eq_of_beq (hclosing c hc), Text.padded_trim _, ?_⟩
    rw [List.append_assoc, ← hrest, ← hcs]
    exact Text.padded_trim cs
  · rintro other ⟨opening, padded, closing, hopening, hclosing, hpadded, hcs⟩
    have htrim : Text.trim cs <:+: opening ++ (padded ++ closing) := by
      rw [← List.append_assoc]
      exact hcs.trim_isInfix List.infix_rfl
    have hdrop := Text.dropWhile_isInfix (fun c hc => beq_iff_eq.2 (hopening c hc)) htrim
    exact hpadded.trim_isInfix
      (Text.dropRight_isInfix (fun c hc => beq_iff_eq.2 (hclosing c hc)) hdrop)

/-- If there are no brackets in a wrapped text, it is left up to the blanks around it. -/
theorem Wraps.body_eq (h : Wraps inner cs) (hopen : '[' ∉ inner) (hclose : ']' ∉ inner) :
    body cs = Text.trim inner := by
  obtain ⟨opening, padded, closing, hopening, hclosing, hpadded, hcs⟩ := h
  have hcore : Padded (Text.trim inner) padded := (Text.padded_trim inner).trans hpadded
  have hle : body cs <:+: Text.trim inner :=
    (inmost_body cs).2 _ ⟨opening, padded, closing, hopening, hclosing, hcore, hcs⟩
  -- the trimmed text begins and ends with nothing that is dropped
  have hmem : ∀ c ∈ Text.trim inner, c ∈ inner :=
    fun c hc => (Text.padded_trim inner).isInfix.mem hc
  have hhead : ∀ c ∈ (Text.trim inner).head?, (c == '[') = false := by
    intro c hc
    apply beq_false_of_ne
    rintro rfl
    exact hopen (hmem _ (List.mem_of_mem_head? hc))
  have hlast : ∀ c ∈ (Text.trim inner).getLast?, (c == ']') = false := by
    intro c hc
    apply beq_false_of_ne
    rintro rfl
    exact hclose (hmem _ (List.mem_of_getLast? hc))
  have hinfix : Text.trim inner <:+: cs :=
    hcore.isInfix.trans (List.IsInfix.trans ⟨opening, closing, rfl⟩ hcs.isInfix)
  have hblank := Text.isInfix_trim (Text.head?_trim inner) (Text.getLast?_trim inner) hinfix
  have hge : Text.trim inner <:+: body cs :=
    Text.isInfix_trim (Text.head?_trim inner) (Text.getLast?_trim inner)
      (Text.isInfix_dropRight hlast (Text.isInfix_dropWhile hhead hblank))
  exact List.infix_antisymm hle hge

end Brackets

section Items

theorem forall₂_spelled_iff {items : List (List Char)} {dims : List Dim} :
    List.Forall₂ Dim.Spelled items dims ↔ List.Forall₂ Dim.Literal (items.map Text.trim) dims := by
  have hiff : Dim.Spelled = fun item d => Dim.Literal (Text.trim item) d := by
    funext item d
    exact propext Dim.spelled_iff_trim
  rw [List.forall₂_map_left_iff, hiff]

/-- Blanks around a list of items make no difference to what the items spell. -/
theorem forall₂_spelled_trim_iff {dims : List Dim} (inner : List Char) :
    List.Forall₂ Dim.Spelled ((Text.trim inner).splitOn ',') dims ↔
      List.Forall₂ Dim.Spelled (inner.splitOn ',') dims := by
  have hcomma : Text.isBlank ',' = false := rfl
  have hitems := (Text.padded_trim inner).map_trim_splitOn hcomma
  rw [forall₂_spelled_iff, forall₂_spelled_iff, hitems]

/-- An inner text that lists dimensions has no brackets in it, so none is lost when brackets are
dropped. -/
theorem not_mem_of_forall₂_spelled {items : List (List Char)} {dims : List Dim}
    (hitems : Separated ',' items inner) (hdims : List.Forall₂ Dim.Spelled items dims) :
    '[' ∉ inner ∧ ']' ∉ inner := by
  obtain ⟨-, -, rfl⟩ := hitems
  have hplain : ∀ c ∈ [','].intercalate items, c ≠ '[' ∧ c ≠ ']' := by
    refine Text.forall_mem_intercalate (by decide) fun item hitem c hc => ?_
    obtain ⟨d, -, hd⟩ := exists_mem_of_forall₂ hdims item hitem
    exact hd.ne_of_mem hc
  exact ⟨fun h => (hplain _ h).1 rfl, fun h => (hplain _ h).2 rfl⟩

end Items

section Reading

/-- A text is read as a scalar if nothing is left of it, otherwise item by item. -/
theorem parseChars_eq_ok_iff : parseChars cs = .ok s ↔ body cs = [] ∧ s = scalar ∨
    body cs ≠ [] ∧ List.Forall₂ Dim.Spelled ((body cs).splitOn ',') s.dims := by
  rw [parseChars, ← mapM_eq_ok_iff fun _ _ => Dim.parse_eq_ok_iff]
  by_cases hbody : body cs = []
  · simp [hbody, eq_comm]
  · simp only [hbody, if_false, false_and, false_or, ne_eq, not_false_iff, true_and, bind_eq_ok_iff,
      pure_eq_ok_iff]
    constructor
    · rintro ⟨dims, hdims, rfl⟩
      exact hdims
    · intro hdims
      exact ⟨s.dims, hdims, rfl⟩

/-- A text is refused for the first item that spells no dimension. -/
theorem parseChars_eq_error_iff : parseChars cs = .error err ↔
    body cs ≠ [] ∧ ∃ before item after, (body cs).splitOn ',' = before ++ item :: after ∧
      (∀ x ∈ before, ∃ d, Dim.Spelled x d) ∧ Dim.Misspelled item err := by
  simp only [← Dim.parse_eq_ok_iff, ← Dim.parse_eq_error_iff]
  rw [parseChars, ← mapM_eq_error_iff]
  by_cases hbody : body cs = []
  · simp [hbody]
  · simp only [hbody, if_false, ne_eq, not_false_iff, true_and, bind_eq_error_iff]
    simp [pure, Except.pure]

/-- A list of plain items, in brackets or not, is read item by item. -/
theorem Wraps.parseChars_eq {items : List (List Char)} (h : Wraps ([','].intercalate items) cs)
    (hne : [] ∉ items) (hplain : ∀ item ∈ items, ∀ c ∈ item, Text.IsPlain c) :
    parseChars cs = (items.mapM Dim.parse).map Shape.mk := by
  have hjoined : ∀ c ∈ [','].intercalate items, Text.isBlank c = false ∧ c ≠ '[' ∧ c ≠ ']' := by
    refine Text.forall_mem_intercalate (by decide) fun item hitem c hc => ?_
    obtain ⟨hblank, hopen, hclose, -⟩ := hplain item hitem c hc
    exact ⟨hblank, hopen, hclose⟩
  -- no item has a bracket or white space, so that only the wrapping is taken off
  have hbody : body cs = [','].intercalate items := by
    rw [h.body_eq (fun hc => (hjoined _ hc).2.1 rfl) fun hc => (hjoined _ hc).2.2 rfl,
      Text.trim_eq_self fun c hc => (hjoined c hc).1]
  have hcomma : ∀ item ∈ items, ',' ∉ item := by
    intro item hitem hmem
    obtain ⟨-, -, -, hcomma⟩ := hplain item hitem ',' hmem
    exact hcomma rfl
  have hitems := Text.items_eq hne hcomma
  rw [parseChars, hbody]
  by_cases hnil : [','].intercalate items = []
  · rw [if_pos hnil] at hitems ⊢
    rw [hitems]
    rfl
  · rw [if_neg hnil] at hitems ⊢
    rw [← hitems]
    rfl

/-- What is read from a text is the shape it spells, and a text that spells none is refused for its
first item that spells no dimension. -/
theorem parse_iff_spelled (text : String) :
    (∀ s, Shape.parse text = .ok s ↔ Spelled text.toList s) ∧
    ∀ err, Shape.parse text = .error err ↔ Misspelled text.toList err := by
  have hinmost := inmost_body text.toList
  constructor
  · intro s
    rw [parse, parseChars_eq_ok_iff]
    constructor
    · rintro (⟨hbody, rfl⟩ | ⟨hbody, hdims⟩)
      · apply Spelled.scalar
        rw [← hbody]
        exact hinmost.1
      · exact .list hinmost.1 (Text.separated_iff.2 rfl) hdims
    · rintro (hwraps | ⟨hwraps, hitems, hdims⟩)
      · exact Or.inl ⟨List.infix_nil.1 (hinmost.2 _ hwraps), rfl⟩
      · obtain ⟨hopen, hclose⟩ := not_mem_of_forall₂_spelled hitems hdims
        obtain rfl := Text.separated_iff.1 hitems
        rw [hwraps.body_eq hopen hclose]
        rw [← forall₂_spelled_trim_iff] at hdims
        refine Or.inr ⟨fun hnil => ?_, hdims⟩
        -- no dimension is spelled by nothing
        rw [hnil, forall₂_spelled_iff] at hdims
        obtain ⟨d, -, hd, -⟩ := List.forall₂_cons_left_iff.1 hdims
        exact hd.ne_nil rfl
  · intro err
    rw [parse, parseChars_eq_error_iff]
    simp only [← Text.separated_iff]
    constructor
    · rintro ⟨hbody, hbad⟩
      exact ⟨_, hinmost, hbody, hbad⟩
    · rintro ⟨inner, hinner, hne, hbad⟩
      obtain rfl := hinmost.unique hinner
      exact ⟨hne, hbad⟩

-- the brackets need not match, and numerals may have signs and leading zeros
example : Shape.parse " [[ +08 , ? ,-1]" = .ok ⟨[.fixed 8, .dynamic, .dynamic]⟩ := by decide

example : Shape.parse "[3, ,-9]" = .error (.invalidDim "") := by decide

end Reading

end Shape

end OpGraph
