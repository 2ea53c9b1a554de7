import OpGraph.Binary64.Shortest
import OpGraph.Dictionary
import OpGraph.Text.Printable
import OpGraph.Yaml.Scalar

/-!
# Decoding values

Decoders take a value and give data of a known type, or the first fault in document order. A record
is decoded from a mapping whose keys are its field names; each field may occur once, and those
without a default must occur. Faults and their texts are the documented behaviour of packages
outside the repository.
-/

namespace OpGraph.Yaml

/-- What was found where something else was expected. -/
inductive Found where
  | scalar (meaning : Meaning)
  | sequence
  | mapping
  deriving DecidableEq, Repr

def Found.describe : Found → String
  | scalar .null => "unit value"
  | scalar (.bool value) => s!"boolean `{value}`"
  | scalar (.unsigned value) => s!"integer `{value}`"
  | scalar (.negative value) => s!"integer `{value.toInt}`"
  | scalar (.wide value true) => s!"integer `{value}` as i128"
  | scalar (.wide value false) => s!"integer `{value}` as u128"
  | scalar (.float value) => s!"floating point `{value.positionalText}`"
  | scalar (.text value) => s!"string {Text.quoted value}"
  | sequence => "sequence"
  | mapping => "map"

/-- Why a value is not what is expected at its place. -/
inductive DataError where
  | invalidType (found : Found) (expected : String)
  -- the value is of the right kind, but out of range or not spelled right
  | invalidValue (found : Found) (expected : String)
  | unknownField (name : String) (fields : List String)
  | duplicateField (name : String)
  | missingField (name : String)
  -- the value has none of the forms of a datum
  | noDatum
  deriving DecidableEq, Repr

/-- Alternatives in words. -/
def describeAlternatives (names : List String) : String :=
  match names.map fun n => s!"`{n}`" with
  | [a, b] => s!"{a} or {b}"
  | names => "one of " ++ String.intercalate ", " names

def DataError.message : DataError → String
  | invalidType found expected => s!"invalid type: {found.describe}, expected {expected}"
  | invalidValue found expected => s!"invalid value: {found.describe}, expected {expected}"
  | unknownField name fields =>
    s!"unknown field `{name}`, expected {describeAlternatives fields}"
  | duplicateField name => s!"duplicate field `{name}`"
  | missingField name => s!"missing field `{name}`"
  | noDatum => "data did not match any variant of untagged enum AttrScalar"

/-- Why a text gives no data. -/
inductive Fault where
  | malformed
  -- the text is well formed as far as it matters but says something unexpected
  | data (error : DataError)
  deriving DecidableEq, Repr

/-- What a scalar means; a failing core tag is the error. -/
def Scalar.meaningOrFault (s : Scalar) : Except Fault Meaning :=
  match s.meaning with
  | .ok m => .ok m
  | .error t =>
    let expected :=
      match t with
      | .null => "null"
      | .bool => "a boolean"
      | .int => "an integer"
      | .float => "a float"
    .error (.data (.invalidValue (.scalar (.text s.text)) expected))

/-- Whether a scalar can be a number or truth value: if it is plain, or a literal block with the tag
of that kind. -/
def Scalar.isBare (s : Scalar) (kind : CoreTag) : Bool :=
  s.style = .plain ∨ (s.style = .literal ∧ s.tag = some kind.tag)

namespace Value

/-- The error of a value that is of another kind than expected. -/
def unexpected {α : Type} (v : Value) (expected : String) : Except Fault α :=
  match v with
  | .scalar s => do throw (.data (.invalidType (.scalar (← s.meaningOrFault)) expected))
  | .sequence .. => .error (.data (.invalidType .sequence expected))
  | .mapping .. => .error (.data (.invalidType .mapping expected))
  | .unreadable => .error .malformed

/-- Decode a bare scalar of some kind. -/
def bare {α : Type} (kind : CoreTag) (read? : List Char → Option α) (expected : String)
    (v : Value) :
    Except Fault α :=
  match v with
  | .scalar s =>
    match if s.isBare kind then read? s.text.toList else none with
    | some value => .ok value
    | none => v.unexpected expected
  | _ => v.unexpected expected

def bool (v : Value) : Except Fault Bool := v.bare .bool bool? "a boolean"

def uint64 (v : Value) : Except Fault UInt64 :=
  v.bare .int (fun cs => (unsigned? cs).bind Numeral.toUInt64?) "u64"

def uint32 (v : Value) : Except Fault UInt32 := do
  let value ← v.bare .int (fun cs => (unsigned? cs).bind Numeral.toUInt64?) "u32"
  match Numeral.toUInt32? value.toNat with
  | some value => return value
  | none => throw (.data (.invalidValue (.scalar (.unsigned value)) "u32"))

def int64 (v : Value) : Except Fault Int64 :=
  v.bare .int
    (fun cs => (((unsigned? cs).map Int.ofNat).or (negative? cs)).bind Numeral.toInt64?) "i64"

/-- Decode a text that is called `expected`; every scalar is one as it is written. -/
def textAs (expected : String) (v : Value) : Except Fault String :=
  match v with
  | .scalar s => .ok s.text
  | _ => v.unexpected expected

def text (v : Value) : Except Fault String := v.textAs "a string"

/-- Decode an optional value; nothing and the spellings of null are none. -/
def optional {α : Type} (read : Value → Except Fault α) (v : Value) : Except Fault (Option α) :=
  match v with
  | .scalar s =>
    if s.style ≠ .plain then some <$> read v
    else
      match s.tag with
      | none => if s.text = "" ∨ isNull s.text.toList then .ok none else some <$> read v
      | some tag =>
        if tag ≠ CoreTag.null.tag then some <$> read v
        else
          match s.meaningOrFault with
          | .ok _ => .ok none
          | .error e => .error e
  | _ => some <$> read v

/-- The items of a sequence; nothing counts as an empty one. -/
def items (v : Value) : Except Fault (List Value) :=
  match v with
  | .sequence _ items => .ok items
  | .scalar s => if s.isAbsent then .ok [] else v.unexpected "a sequence"
  | _ => v.unexpected "a sequence"

/-- The entries of a mapping; nothing counts as an empty one. -/
def entries (v : Value) (expected : String) : Except Fault (List (Value × Value)) :=
  match v with
  | .mapping _ entries => .ok entries
  | .scalar s => if s.isAbsent then .ok [] else v.unexpected expected
  | _ => v.unexpected expected

/-- Decode a sequence. -/
def list {α : Type} (read : Value → Except Fault α) (v : Value) : Except Fault (List α) := do
  (← v.items).mapM read

/-- Decode a mapping with texts as keys; of a repeated key the last value stays. -/
def dictionary {α : Type} (read : Value → Except Fault α) (v : Value) :
    Except Fault (Dictionary String α) := do
  let es ← (← v.entries "a map").mapM fun e => do return (← e.1.text, ← read e.2)
  return .ofList es

/-- A field of a record type whose partial values are `σ`. -/
structure RecordField (σ : Type) where
  name : String
  isSet : σ → Bool
  read : σ → Value → Except Fault σ

/-- A field that a lens reaches. -/
def RecordField.of {σ α : Type} (name : String) (get : σ → Option α) (set : σ → α → σ)
    (read : Value → Except Fault α) : RecordField σ :=
  ⟨name, fun s => (get s).isSome, fun s v => set s <$> read v⟩

/-- Decode one entry of a record. -/
def readEntry {σ : Type} (fields : List (RecordField σ)) (partialValue : σ) (e : Value × Value) :
    Except Fault σ := do
  let name ← e.1.textAs "field identifier"
  match fields.find? (·.name == name) with
  | none => throw (.data (.unknownField name (fields.map RecordField.name)))
  | some field =>
    if field.isSet partialValue then throw (.data (.duplicateField name))
    field.read partialValue e.2

/-- Decode the entries of a record in document order. -/
def record {σ : Type} (expected : String) (fields : List (RecordField σ)) (start : σ) (v : Value) :
    Except Fault σ := do
  (← v.entries expected).foldlM (readEntry fields) start

def required {α : Type} (name : String) (value : Option α) : Except Fault α :=
  match value with
  | some value => .ok value
  | none => .error (.data (.missingField name))

end Value

/-- Decode a text. What the decoder objects to comes before what follows the document. -/
def decode {α : Type} (read : Value → Except Fault α) (text : String) : Except Fault α := do
  let parsed := Parsed.ofText text
  let data ← read parsed.root.value
  if parsed.complete then return data else throw .malformed

end OpGraph.Yaml
