/-!
# Tags and tokens of a YAML text

A tag names the type of a node, as a sequence of bytes, since its escapes may stand for bytes that
are no text. Tags and tokens are those of the package outside the repository that reads YAML, as
documented.
-/

namespace OpGraph.Yaml

/-- A tag in full. -/
structure Tag where
  bytes : List UInt8
  deriving DecidableEq, Repr, Inhabited

namespace Tag

def ofText (text : String) : Tag := ⟨text.toList.flatMap String.utf8EncodeChar⟩

/-- Whether a tag starts with an exclamation mark. -/
def isLocal (t : Tag) : Bool := t.bytes.head? == some 0x21

/-- The name behind the exclamation mark of a local tag, if its bytes are a text. -/
def localName? (t : Tag) : Option String :=
  if t.isLocal then String.fromUTF8? ⟨t.bytes.tail.toArray⟩ else none

end Tag

/-- The tags that demand a meaning. -/
inductive CoreTag where
  | null
  | bool
  | int
  | float
  deriving DecidableEq, Repr

namespace CoreTag

def tag : CoreTag → Tag
  | null => .ofText "tag:yaml.org,2002:null"
  | bool => .ofText "tag:yaml.org,2002:bool"
  | int => .ofText "tag:yaml.org,2002:int"
  | float => .ofText "tag:yaml.org,2002:float"

/-- The meaning that a tag demands, if it demands one. -/
def ofTag? (t : Tag) : Option CoreTag := [null, bool, int, float].find? fun k => k.tag == t

end CoreTag

/-! ### Tokens -/

/-- How a scalar is written. -/
inductive Style where
  | plain
  | singleQuoted
  | doubleQuoted
  | literal
  | folded
  deriving DecidableEq, Repr, Inhabited

/-- The units of a text, with the structure that indentation implies made explicit. -/
inductive Token where
  | streamEnd
  | versionDirective (major minor : Nat)
  | tagDirective (handle : String) (expansion : List UInt8)
  | documentStart
  | documentEnd
  | blockSequenceStart
  | blockMappingStart
  | blockEnd
  | flowSequenceStart
  | flowSequenceEnd
  | flowMappingStart
  | flowMappingEnd
  | blockEntry
  | flowEntry
  -- a key follows
  | key
  | value
  | alias (name : String)
  | anchor (name : String)
  -- a tag for the node that follows; a verbatim tag has no handle
  | tag (handle : String) (suffix : List UInt8)
  -- a scalar, its text with escapes and folding resolved
  | scalar (text : String) (style : Style)
  deriving DecidableEq, Repr, Inhabited

end OpGraph.Yaml
