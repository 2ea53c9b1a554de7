import OpGraph.Binary64.Basic
import OpGraph.Text.Basic

/-!
# Shortest decimal text of double-precision numbers

A finite number is written with the fewest digits that read back to it, and of the decimals with so
few digits the nearest. The reals that read back form an interval around the number, whose ends
belong to it iff the significand is even. On the grid of multiples of a power of ten only the two
neighbours of the number need to be tried.
-/

namespace OpGraph

/-- The number `0.d₁d₂… * 10 ^ point`. -/
structure Decimal where
  -- decimal digits; neither the first nor the last is `0`
  digits : List Char
  -- position of the decimal point, counted from the first digit
  point : Int
  deriving DecidableEq, Repr

namespace Decimal

/-- The decimal `n * 10 ^ exponent` without closing zeros. -/
def ofScaled (n : Nat) (exponent : Int) : Decimal :=
  let digits := Nat.toDigits 10 n
  ⟨Text.dropRight (· == '0') digits, digits.length + exponent⟩

def zeros (n : Int) : List Char := List.replicate n.toNat '0'

/-- The decimal without an exponent and with at least one place behind the point. -/
def positional (d : Decimal) : String :=
  String.ofList <|
    if d.point ≤ 0 then '0' :: '.' :: zeros (-d.point) ++ d.digits
    else if d.digits.length ≤ d.point then
      d.digits ++ zeros (d.point - d.digits.length) ++ ['.', '0']
    else d.digits.take d.point.toNat ++ '.' :: d.digits.drop d.point.toNat

/-- The decimal with one digit before the point and an exponent; without further digits there is no
point. -/
def scientific (d : Decimal) : String :=
  let significand :=
    match d.digits with
    | [] => []
    | [c] => [c]
    | c :: rest => c :: '.' :: rest
  String.ofList significand ++ "e" ++ Int.repr (d.point - 1)

end Decimal

namespace Binary64

/-- The reals that read back to a positive magnitude, in quarters of a unit: a lower and an upper
end, and whether the ends are included. Below a power of two the spacing is half as wide, except at
the smallest spacing. -/
structure RoundingInterval where
  lower : Nat
  upper : Nat
  -- whether the ends belong to the interval
  closed : Bool

/-- The reals that read back to a positive magnitude. -/
def roundingInterval (units : Nat) : RoundingInterval :=
  let step := spacing units
  let below := if 1 < step ∧ units = Nat.pow 2 units.log2 then step else 2 * step
  ⟨4 * units - below, 4 * units + 2 * step, units / step % 2 = 0⟩

def RoundingInterval.contains (i : RoundingInterval) (num den : Nat) : Bool :=
  if i.closed then i.lower * den ≤ num && num ≤ i.upper * den
  else i.lower * den < num && num < i.upper * den

/-- A multiple of `10 ^ exponent` that reads back to a magnitude, if one of the two next to it does:
of two the nearer, and the larger if both are as near. -/
def onGrid? (units : Nat) (exponent : Int) : Option Nat :=
  let num := 4 * one * Nat.pow 10 exponent.toNat
  let den := Nat.pow 10 (-exponent).toNat
  let value := 4 * units * den
  let low := value / num
  let high := low + 1
  let interval := roundingInterval units
  match interval.contains (low * num) den, interval.contains (high * num) den with
  | true, true => if value - low * num < high * num - value then some low else some high
  | true, false => some low
  | false, true => some high
  | false, false => none

/-- The first power of ten, from `exponent` down, on whose grid a multiple reads back. -/
def searchGrids (units : Nat) : Nat → Int → Decimal
  | 0, exponent => .ofScaled (units * Nat.pow 10 (-exponent).toNat / one) exponent
  | fuel + 1, exponent =>
    match onGrid? units exponent with
    | some n => .ofScaled n exponent
    | none => searchGrids units fuel (exponent - 1)

/-- The exponent of the largest power of ten that does not exceed a positive magnitude. No magnitude
is below `10 ^ (-324)`. -/
def decimalExponent (units : Nat) : Int :=
  ((Nat.toDigits 10 (units * Nat.pow 10 324 / one)).length : Int) - 1 - 324

/-- The fewest digits that read back to a positive magnitude; seventeen always suffice. -/
def shortest (units : Nat) : Decimal := searchGrids units 18 (decimalExponent units)

def signed (negative : Bool) (text : String) : String := if negative then "-" ++ text else text

/-- The shortest text, with at least one place behind the point. Magnitudes from `0.0001` to below
`10 ^ 16` are written without an exponent. -/
def text : Binary64 → String
  | nan => "NaN"
  | infinite negative => signed negative "inf"
  | finite negative 0 => signed negative "0.0"
  | finite negative units =>
    let d := shortest units
    signed negative (if -4 < d.point ∧ d.point ≤ 16 then d.positional else d.scientific)

/-- The shortest text without an exponent, with at least one place behind the point of a number. -/
def positionalText : Binary64 → String
  | nan => "NaN"
  | infinite negative => signed negative "inf"
  | finite negative 0 => signed negative "0.0"
  | finite negative units => signed negative (shortest units).positional

end Binary64

end OpGraph
