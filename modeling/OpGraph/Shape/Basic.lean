import OpGraph.Numeral
import OpGraph.Text.Basic

/-!
# Tensor shapes

A shape is a list of dimensions, each a fixed extent or dynamic. Files record a dimension as a
64-bit integer in which `-1` stands for dynamic and all other negative values are errors.
-/

namespace OpGraph

/-- One dimension: a fixed extent, or an extent known only when the graph runs. -/
inductive Dim where
  | fixed (extent : UInt64)
  | dynamic
  deriving DecidableEq, Repr, Inhabited

/-- Why dimensions cannot be decoded. -/
inductive ShapeError where
  -- a negative value other than `-1`
  | negativeDim (value : Int64)
  -- a text that is neither `?` nor a 64-bit integer
  | invalidDim (text : String)
  deriving DecidableEq, Repr

def ShapeError.message : ShapeError → String
  | negativeDim v => s!"negative dimension {v.toInt} (only -1 may mark a dynamic dimension)"
  | invalidDim text => s!"invalid dimension '{text}'"

namespace Dim

/-- Decode a recorded dimension: `-1` is dynamic, every other negative value an error. -/
def ofRecorded (value : Int64) : Except ShapeError Dim :=
  if value = -1 then .ok dynamic
  else if 0 ≤ value then .ok (fixed value.toUInt64)
  else .error (.negativeDim value)

def isFixed : Dim → Bool
  | fixed _ => true
  | dynamic => false

def extent? : Dim → Option UInt64
  | fixed n => some n
  | dynamic => none

/-- The decimal extent, or `?`. -/
def toString : Dim → String
  | fixed n => Nat.repr n.toNat
  | dynamic => "?"

end Dim

/-- The shape of a tensor, outermost dimension first. -/
structure Shape where
  dims : List Dim
  deriving DecidableEq, Repr, Inhabited

namespace Shape

def scalar : Shape := ⟨[]⟩

def ofExtents (extents : List UInt64) : Shape := ⟨extents.map .fixed⟩

/-- Decode recorded dimensions; the first bad value is the error. -/
def ofRecorded (values : List Int64) : Except ShapeError Shape :=
  return ⟨← values.mapM Dim.ofRecorded⟩

def rank (s : Shape) : Nat := s.dims.length

def isFixed (s : Shape) : Bool := s.dims.all Dim.isFixed

/-- Product of two 64-bit numbers, if it fits into 64 bits. -/
def mul? (a b : UInt64) : Option UInt64 :=
  if a.toNat * b.toNat < UInt64.size then some (a * b) else none

/-- Number of elements: the extents multiplied from left to right. There is none when a dimension is
dynamic or a partial product does not fit into 64 bits. -/
def elementCount? (s : Shape) : Option UInt64 :=
  s.dims.foldlM (fun count d => d.extent?.bind (mul? count)) 1

/-- The dimensions between brackets, separated by commas. -/
def toString (s : Shape) : String :=
  "[" ++ String.intercalate "," (s.dims.map Dim.toString) ++ "]"

instance : ToString Shape := ⟨toString⟩

end Shape

/-! ### Reading shapes from text

The text form is a comma-separated list of items, `?` or an integer, with optional brackets and
blanks around it; an empty list is the scalar shape. -/

/-- Read one item, without the blanks around it. -/
def Dim.parse (item : List Char) : Except ShapeError Dim :=
  let text := Text.trim item
  if text = ['?'] then .ok dynamic
  else
    match (Numeral.int? text).bind Numeral.toInt64? with
    | some value => Dim.ofRecorded value
    | none => .error (.invalidDim (String.ofList text))

namespace Shape

/-- A text without outer blanks, the brackets inside them, and the blanks inside those. -/
def body (cs : List Char) : List Char :=
  Text.trim (Text.dropRight (· == ']') ((Text.trim cs).dropWhile (· == '[')))

/-- Read a shape from the characters of a text. -/
def parseChars (cs : List Char) : Except ShapeError Shape :=
  let items := body cs
  if items = [] then .ok scalar
  else return ⟨← (items.splitOn ',').mapM Dim.parse⟩

/-- Read a shape; the error is that of the first bad item. -/
def parse (text : String) : Except ShapeError Shape := parseChars text.toList

end Shape

end OpGraph
