import OpGraph.Numeral

/-!
# Double-precision numbers

IEEE 754 binary64 values in exact arithmetic. Every finite value is a whole multiple of the smallest
positive one, `2 ^ (-1074)`, so its magnitude is a natural number in that unit, and rounding a
fraction is a division.
-/

namespace OpGraph

/-- NaN, the infinities, and finite values as signed magnitudes in units of the smallest positive
value. -/
inductive Binary64 where
  | nan
  | infinite (negative : Bool)
  -- a finite number whose magnitude is a multiple of `2 ^ (-1074)`
  | finite (negative : Bool) (units : Nat)
  deriving DecidableEq, Repr, Inhabited

namespace Binary64

/-- Binary digits of a significand. -/
def precision : Nat := 53

/-- Units in one, `2 ^ 1074`. -/
def one : Nat := Nat.pow 2 1074

/-- The magnitude from which numbers are infinite, `2 ^ 1024`, in units. -/
def limit : Nat := Nat.pow 2 1024 * one

/-- Distance between neighbouring magnitudes, in units, at a magnitude. -/
def spacing (units : Nat) : Nat := Nat.pow 2 (units.log2 + 1 - precision)

/-- The whole number nearest to a fraction, of two the even one. -/
def nearest (num den : Nat) : Nat :=
  let q := num / den
  let r := num % den
  if 2 * r < den ∨ (2 * r = den ∧ q % 2 = 0) then q else q + 1

/-- The number nearest to a fraction of given sign, of two the one with the even significand. -/
def ofRatio (negative : Bool) (num den : Nat) : Binary64 :=
  let step := spacing (num * one / den)
  let units := nearest (num * one) (den * step) * step
  if units < limit then finite negative units else infinite negative

/-- The number nearest to `digits * 10 ^ exponent`. Far outside the range of finite magnitudes the
power of ten is not computed: from `10 ^ 310` on all are infinite, and `10 ^ (-k)` is below
`2 ^ (-3 * k)`. -/
def ofDecimal (negative : Bool) (digits : Nat) (exponent : Int) : Binary64 :=
  if digits = 0 then finite negative 0
  else if 310 < exponent then infinite negative
  else if (digits.log2 : Int) + 1 + 3 * exponent < -1080 then finite negative 0
  else if 0 ≤ exponent then ofRatio negative (digits * Nat.pow 10 exponent.toNat) 1
  else ofRatio negative digits (Nat.pow 10 (-exponent).toNat)

def ofNat (n : Nat) : Binary64 := ofRatio false n 1

def isFinite : Binary64 → Bool
  | finite .. => true
  | _ => false

def neg : Binary64 → Binary64
  | nan => nan
  | infinite negative => infinite !negative
  | finite negative units => finite (!negative) units

/-- Read an unsigned decimal number: digits with an optional point among, before or behind them, and
an optional exponent. -/
def unsignedDecimal? (cs : List Char) : Option Binary64 := do
  let (whole, rest) := cs.span Char.isDigit
  let (fraction, rest) :=
    match rest with
    | '.' :: rest => rest.span Char.isDigit
    | rest => ([], rest)
  let digits ← Numeral.nat? (whole ++ fraction)
  let exponent ←
    match rest with
    | [] => some 0
    | 'e' :: rest => Numeral.int? rest
    | 'E' :: rest => Numeral.int? rest
    | _ => none
  return ofDecimal false digits (exponent - fraction.length)

/-- Read a decimal number with an optional sign. -/
def decimal? : List Char → Option Binary64
  | '+' :: cs => unsignedDecimal? cs
  | '-' :: cs => (unsignedDecimal? cs).map neg
  | cs => unsignedDecimal? cs

/-- Read an unsigned decimal number or the name of a special value in any letter case. -/
def unsigned? (cs : List Char) : Option Binary64 :=
  match String.ofList (cs.map Char.toLower) with
  | "nan" => some nan
  | "inf" | "infinity" => some (infinite false)
  | _ => unsignedDecimal? cs

/-- Read a number in decimal form or by its name. -/
def ofText? (text : String) : Option Binary64 :=
  match text.toList with
  | '+' :: cs => unsigned? cs
  | '-' :: cs => (unsigned? cs).map neg
  | cs => unsigned? cs

end Binary64

end OpGraph
