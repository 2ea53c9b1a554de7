/-!
# Element types of tensors

The numeric types a tensor port can carry, with their names in graph files, their sizes, and the
reading of a name.
-/

namespace OpGraph

inductive ElementType where
  | f32 | f16 | bf16 | f64
  | i64 | i32 | i16 | i8
  | u64 | u32 | u16 | u8
  | bool
  deriving DecidableEq, Repr, Inhabited

namespace ElementType

/-- Every element type, in the order of declaration. -/
def all : List ElementType :=
  [f32, f16, bf16, f64, i64, i32, i16, i8, u64, u32, u16, u8, bool]

/-- The canonical name, as graph files give it. -/
def name : ElementType → String
  | f32 => "FP32"
  | f16 => "FP16"
  | bf16 => "BF16"
  | f64 => "FP64"
  | i64 => "I64"
  | i32 => "I32"
  | i16 => "I16"
  | i8 => "I8"
  | u64 => "U64"
  | u32 => "U32"
  | u16 => "U16"
  | u8 => "U8"
  | bool => "BOOL"

instance : ToString ElementType := ⟨name⟩

/-- Bytes that one element occupies. -/
def byteSize : ElementType → Nat
  | f32 => 4
  | f16 => 2
  | bf16 => 2
  | f64 => 8
  | i64 => 8
  | i32 => 4
  | i16 => 2
  | i8 => 1
  | u64 => 8
  | u32 => 4
  | u16 => 2
  | u8 => 1
  | bool => 1

def isFloat : ElementType → Bool
  | f32 | f16 | bf16 | f64 => true
  | _ => false

/-- The element type of a name written in capitals. -/
def ofCapitals? : String → Option ElementType
  | "FP32" | "F32" => some f32
  | "FP16" | "F16" => some f16
  | "BF16" => some bf16
  | "FP64" | "F64" => some f64
  | "I64" => some i64
  | "I32" => some i32
  | "I16" => some i16
  | "I8" => some i8
  | "U64" => some u64
  | "U32" => some u32
  | "U16" => some u16
  | "U8" => some u8
  | "BOOL" => some bool
  | _ => none

/-- The element type of a name; ASCII letters may be of either case. -/
def ofName? (text : String) : Option ElementType := ofCapitals? text.toUpper

end ElementType

end OpGraph
