import OpGraph.Binary64.Basic
import OpGraph.Yaml.Value

/-!
# The meaning of scalars

A plain scalar without a tag may be a null, a truth value, an integer or a floating-point number;
otherwise it is a text. Core tags demand a meaning. The rules are the documented behaviour of a
package outside the repository.
-/

namespace OpGraph.Yaml

/-- Whether a text is an optional sign and digits of which the first of several is zero. Such a text
is not a number. -/
def hasLeadingZero : List Char → Bool
  | '+' :: '0' :: c :: cs => (c :: cs).all Char.isDigit
  | '-' :: '0' :: c :: cs => (c :: cs).all Char.isDigit
  | '0' :: c :: cs => (c :: cs).all Char.isDigit
  | _ => false

/-- The value of a numeral without a sign: decimal digits without a leading zero, or digits behind a
marker of the base. -/
def magnitude? : List Char → Option Nat
  | '0' :: 'x' :: cs => Numeral.natIn? 16 cs
  | '0' :: 'o' :: cs => Numeral.natIn? 8 cs
  | '0' :: 'b' :: cs => Numeral.natIn? 2 cs
  | cs => if hasLeadingZero cs then none else Numeral.nat? cs

/-- An integer without a minus sign, decimal or with one of the markers `0x`, `0o` and `0b`. -/
def unsigned? : List Char → Option Nat
  | '+' :: cs => magnitude? cs
  | cs => magnitude? cs

/-- An integer with a minus sign. -/
def negative? : List Char → Option Int
  | '-' :: cs => (magnitude? cs).map fun n => -(n : Int)
  | _ => none

/-- What a scalar means. -/
inductive Meaning where
  | null
  | bool (value : Bool)
  -- an integer without a minus sign that fits into 64 bits
  | unsigned (value : UInt64)
  -- an integer with a minus sign that fits into 64 bits
  | negative (value : Int64)
  -- an integer that fits into 128 bits only; the flag tells whether it has a minus sign
  | wide (value : Int) (signed : Bool)
  | float (value : Binary64)
  | text (value : String)
  deriving DecidableEq, Repr

def isNull (cs : List Char) : Bool :=
  ["null".toList, "Null".toList, "NULL".toList, ['~']].contains cs

def bool? (cs : List Char) : Option Bool :=
  if ["true".toList, "True".toList, "TRUE".toList].contains cs then some true
  else if ["false".toList, "False".toList, "FALSE".toList].contains cs then some false
  else none

/-- The integer a text spells, if it fits into 128 bits. -/
def integer? (cs : List Char) : Option Meaning :=
  match unsigned? cs, negative? cs with
  | some n, _ =>
    match Numeral.toUInt64? n with
    | some value => some (.unsigned value)
    | none => if n < Nat.pow 2 128 then some (.wide n false) else none
  | none, some n =>
    match Numeral.toInt64? n with
    | some value => some (.negative value)
    | none => if -Int.ofNat (Nat.pow 2 127) ≤ n then some (.wide n true) else none
  | none, none => none

/-- The spellings of infinity behind its sign. -/
def infinityNames : List (List Char) := [".inf".toList, ".Inf".toList, ".INF".toList]

/-- The spellings of NaN. -/
def nanNames : List (List Char) := [".nan".toList, ".NaN".toList, ".NAN".toList]

/-- The floating-point number a text spells. A decimal that would be infinite is none. -/
def float? (cs : List Char) : Option Binary64 :=
  if nanNames.contains cs then some .nan
  else
    let unsigned :=
      match cs with
      | '+' :: rest => rest
      | rest => rest
    if infinityNames.contains unsigned then some (.infinite false)
    else
      match cs with
      | '-' :: rest =>
        if infinityNames.contains rest then some (.infinite true)
        else (Binary64.decimal? cs).filter Binary64.isFinite
      | _ => (Binary64.decimal? cs).filter Binary64.isFinite

/-- The meaning of a plain scalar without a tag. -/
def plainMeaning (text : String) : Meaning :=
  let cs := text.toList
  if cs = [] ∨ isNull cs then .null
  else
    match bool? cs with
    | some value => .bool value
    | none =>
      match integer? cs with
      | some m => m
      | none =>
        if hasLeadingZero cs then .text text
        else
          match float? cs with
          | some value => .float value
          | none => .text text

/-- The meaning a core tag demands of a text. -/
def CoreTag.meaning? (t : CoreTag) (text : String) : Option Meaning :=
  let cs := text.toList
  match t with
  | null => if isNull cs then some .null else none
  | bool => (bool? cs).map .bool
  | int => integer? cs
  | float => (float? cs).map .float

namespace Scalar

/-- Whether the scalar may stand for a collection without contents. -/
def isAbsent (s : Scalar) : Bool := s.text = "" ∧ s.style = .plain

/-- What a scalar means, or the core tag whose demand it fails. -/
def meaning (s : Scalar) : Except CoreTag Meaning :=
  match s.tag.bind CoreTag.ofTag? with
  | some t =>
    match t.meaning? s.text with
    | some m => .ok m
    | none => .error t
  | none =>
    if s.style = .plain ∧ s.tag.all Tag.isLocal then .ok (plainMeaning s.text)
    else .ok (.text s.text)

end Scalar

end OpGraph.Yaml
