import OpGraph.Proofs.Traversal
import OpGraph.Yaml.Decode

/-!
# Entries of decoded mappings

A mapping is decoded to a record or to a dictionary. Either way what is found under a name is what
was decoded from the entry of that name, and where names are repeated, from the last of these
entries.
-/

namespace OpGraph.Yaml

namespace Value

variable {σ α : Type} {v w : Value} {name expected : String} {es : List (Value × Value)}
  {read : Value → Except Fault α}

/-- A value as a scalar, if it is one. -/
def scalar? : Value → Option Scalar
  | .scalar s => some s
  | _ => none

theorem eq_scalar_of_scalar? {s : Scalar} (h : v.scalar? = some s) : v = .scalar s := by
  cases v with
  | scalar s' => rw [← Option.some.inj h]
  | _ => cases h

/-- The text of a scalar, whatever it means. -/
def scalarText? (v : Value) : Option String := v.scalar?.map Scalar.text

/-- The value of an entry, if that has the name. -/
def named? (name : String) (e : Value × Value) : Option Value :=
  if e.1.scalarText? = some name then some e.2 else none

/-- The value of the last entry of a mapping with the name. -/
def entry? (name : String) : Value → Option Value
  | .mapping _ entries => (entries.filterMap (named? name)).getLast?
  | _ => none

/-- An item of a sequence by its number. -/
def item? (i : Nat) : Value → Option Value
  | .sequence _ items => items[i]?
  | _ => none

theorem unexpected_ne_ok (v : Value) (expected : String) (x : α) :
    v.unexpected expected ≠ .ok x := by
  intro h
  cases v with
  | scalar s =>
    obtain ⟨m, -, hm⟩ := bind_eq_ok_iff.1 h
    cases hm
  | _ => cases h

theorem textAs_eq_ok_iff {text : String} :
    v.textAs expected = .ok text ↔ v.scalarText? = some text := by
  cases v with
  | scalar s => simp [textAs, scalarText?, scalar?]
  | _ => simp [textAs, scalarText?, scalar?, unexpected_ne_ok]

/-- Nothing counts as a mapping without entries, and no entry is found in it either. -/
theorem entry?_eq_of_entries (h : v.entries expected = .ok es) (name : String) :
    v.entry? name = (es.filterMap (named? name)).getLast? := by
  cases v with
  | mapping tag entries =>
    obtain rfl := Except.ok.inj h
    rfl
  | scalar s =>
    rw [entries] at h
    split at h
    · obtain rfl := Except.ok.inj h
      rfl
    · exact absurd h (unexpected_ne_ok _ _ _)
  | sequence tag items => cases h
  | unreadable => cases h

/-- What is decoded at a place of a list was decoded from the item at that place. -/
theorem getElem?_of_list {ys : List α} (h : v.list read = .ok ys) {i : Nat}
    (hi : v.item? i = some w) :
    ∃ y, ys[i]? = some y ∧ read w = .ok y := by
  obtain ⟨items, hitems, hys⟩ := bind_eq_ok_iff.1 h
  cases v with
  | sequence tag items' =>
    obtain rfl := Except.ok.inj hitems
    have hforall := (mapM_eq_ok_iff fun _ _ => Iff.rfl).1 hys
    obtain ⟨hlt, rfl⟩ := List.getElem?_eq_some_iff.1 hi
    have hlt' : i < ys.length := hforall.length_eq ▸ hlt
    exact ⟨ys[i], List.getElem?_eq_getElem hlt', hforall.get hlt hlt'⟩
  | _ => cases hi

theorem named?_of_scalarText? {e : Value × Value} {text : String}
    (h : e.1.scalarText? = some text) :
    named? name e = if text = name then some e.2 else none := by
  rw [named?, h]
  simp only [Option.some.injEq]

/-- A mapping is decoded to the dictionary of what its entries are decoded to, in their order. So of
two entries with one key the later counts. -/
theorem dictionary_eq_ok_iff {d : Dictionary String α} : v.dictionary read = .ok d ↔
    ∃ es ys, v.entries "a map" = .ok es ∧
      List.Forall₂ (fun e y => e.1.scalarText? = some y.1 ∧ read e.2 = .ok y.2) es ys ∧
      d = .ofList ys := by
  have hstep : ∀ (e : Value × Value) (y : String × α),
      (do return (← e.1.text, ← read e.2) : Except Fault (String × α)) = .ok y ↔
        e.1.scalarText? = some y.1 ∧ read e.2 = .ok y.2 := by
    intro e y
    simp only [bind_eq_ok_iff, pure_eq_ok_iff, text, textAs_eq_ok_iff]
    constructor
    · rintro ⟨text, htext, x, hx, rfl⟩
      exact ⟨htext, hx⟩
    · rintro ⟨htext, hx⟩
      exact ⟨y.1, htext, y.2, hx, rfl⟩
  simp only [dictionary, bind_eq_ok_iff, pure_eq_ok_iff, mapM_eq_ok_iff hstep, eq_comm (b := d),
    exists_and_left]

/-- Entries that are set in a dictionary one after the other hide each other and what was found
before. -/
theorem rel_foldl_set {ys : List (String × α)}
    (hys : List.Forall₂ (fun e y => e.1.scalarText? = some y.1 ∧ read e.2 = .ok y.2) es ys)
    {found : Option Value} {d : Dictionary String α}
    (hd : Option.Rel (fun w x => read w = .ok x) found (d.get? name)) :
    Option.Rel (fun w x => read w = .ok x) ((es.filterMap (named? name)).getLast?.or found)
      ((ys.foldl (fun d y => d.set y.1 y.2) d).get? name) := by
  induction hys generalizing found d with
  | nil => exact hd
  | @cons e y es ys hy _ ih =>
    rw [getLast?_filterMap_cons, Option.or_assoc, List.foldl_cons]
    apply ih
    rw [Dictionary.get?_set, named?_of_scalarText? hy.1]
    by_cases hname : y.1 = name
    · rw [if_pos hname, if_pos hname.symm]
      exact .some hy.2
    · rw [if_neg hname, if_neg (Ne.symm hname)]
      exact hd

/-- What is found in a dictionary was decoded from the last entry of the name. -/
theorem rel_entry?_of_dictionary {d : Dictionary String α} (h : v.dictionary read = .ok d)
    (name : String) : Option.Rel (fun w x => read w = .ok x) (v.entry? name) (d.get? name) := by
  obtain ⟨es, ys, hes, hys, rfl⟩ := dictionary_eq_ok_iff.1 h
  have hrel : Option.Rel (fun w x => read w = .ok x) ((es.filterMap (named? name)).getLast?.or none)
      ((Dictionary.ofList ys).get? name) := rel_foldl_set hys .none
  rwa [Option.or_none, ← entry?_eq_of_entries hes] at hrel

/-- Of the fields of a record the one of this name fills the place with what it decodes, and all
others leave it as it is. -/
structure Fills (fields : List (RecordField σ)) (name : String) (get : σ → Option α)
    (read : Value → Except Fault α) : Prop where
  of_eq : ∀ f ∈ fields, f.name = name → ∀ s v t, f.read s v = .ok t →
    ∃ x, read v = .ok x ∧ get t = some x
  of_ne : ∀ f ∈ fields, f.name ≠ name → ∀ s v t, f.read s v = .ok t → get t = get s

theorem exists_field_of_readEntry {fields : List (RecordField σ)} {s t : σ} {e : Value × Value}
    (h : readEntry fields s e = .ok t) :
    ∃ f ∈ fields, e.1.scalarText? = some f.name ∧ f.read s e.2 = .ok t := by
  obtain ⟨text, htext, h⟩ := bind_eq_ok_iff.1 h
  cases hf : fields.find? (·.name == text) with
  | none =>
    rw [hf] at h
    cases h
  | some f =>
    simp only [hf] at h
    split at h
    · cases h
    · have hname : f.name = text := eq_of_beq (List.find?_some hf :)
      rw [textAs_eq_ok_iff, ← hname] at htext
      exact ⟨f, List.mem_of_find?_eq_some hf, htext, h⟩

/-- Fields that are read one after the other hide each other and what was found before. -/
theorem rel_foldlM_readEntry {fields : List (RecordField σ)} {get : σ → Option α}
    (hfills : Fills fields name get read) {found : Option Value} {s t : σ}
    (ht : es.foldlM (readEntry fields) s = .ok t)
    (hs : Option.Rel (fun w x => read w = .ok x) found (get s)) :
    Option.Rel (fun w x => read w = .ok x) ((es.filterMap (named? name)).getLast?.or found)
      (get t) := by
  induction es generalizing found s with
  | nil =>
    obtain rfl := pure_eq_ok_iff.1 ht
    exact hs
  | cons e es ih =>
    rw [List.foldlM_cons] at ht
    obtain ⟨u, hu, ht⟩ := bind_eq_ok_iff.1 ht
    obtain ⟨f, hf, htext, hread⟩ := exists_field_of_readEntry hu
    rw [getLast?_filterMap_cons, Option.or_assoc]
    refine ih ht ?_
    rw [named?_of_scalarText? htext]
    -- an entry under another name leaves what was found for this one
    by_cases hname : f.name = name
    · obtain ⟨x, hx, hget⟩ := hfills.of_eq f hf hname s e.2 u hread
      rw [if_pos hname, hget]
      exact .some hx
    · rw [if_neg hname, hfills.of_ne f hf hname s e.2 u hread]
      exact hs

/-- What is found in a record was decoded from the last entry of the name. -/
theorem rel_entry?_of_record {fields : List (RecordField σ)} {start t : σ} {get : σ → Option α}
    (hfills : Fills fields name get read) (hstart : get start = none)
    (h : v.record expected fields start = .ok t) :
    Option.Rel (fun w x => read w = .ok x) (v.entry? name) (get t) := by
  obtain ⟨es, hes, ht⟩ := bind_eq_ok_iff.1 h
  have hrel : Option.Rel (fun w x => read w = .ok x) ((es.filterMap (named? name)).getLast?.or none)
      (get t) := rel_foldlM_readEntry hfills ht (hstart ▸ .none)
  rwa [Option.or_none, ← entry?_eq_of_entries hes] at hrel

end Value

end OpGraph.Yaml
