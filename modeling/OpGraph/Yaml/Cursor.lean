import OpGraph.Text.Basic

/-!
# Positions in a YAML text

A cursor is the rest of a text together with the line and column where the rest starts and the
number of bytes before it. Here and in the modules that read YAML with it, the rules are the
documented behaviour of a package outside the repository.
-/

namespace OpGraph.Yaml

/-- The characters a YAML text may contain. -/
def isAllowed (c : Char) : Bool :=
  let n := c.toNat
  n == 0x09 || n == 0x0A || n == 0x0D || (0x20 ≤ n && n ≤ 0x7E) || n == 0x85
    || (0xA0 ≤ n && n ≤ 0xD7FF) || (0xE000 ≤ n && n ≤ 0xFFFD) || 0x10000 ≤ n

/-- Characters that end a line. -/
def isBreak (c : Char) : Bool :=
  c == '\n' || c == '\r' || c == '\u0085' || c == '\u2028' || c == '\u2029'

/-- Characters that separate words within a line. -/
def isGap (c : Char) : Bool := c == ' ' || c == '\t'

/-- Characters of anchors, tag handles and directive names. -/
def isWord (c : Char) : Bool := c.isAlphanum || c == '_' || c == '-'

/-- A position in a text. -/
structure Cursor where
  rest : List Char
  -- the number of line breaks before the position
  line : Nat
  -- the number of characters before the position on its line
  column : Nat
  -- the number of bytes before the position
  offset : Nat
  deriving Repr, Inhabited

namespace Cursor

def start (text : List Char) : Cursor := ⟨text, 0, 0, 0⟩

/-- The character some places ahead. -/
def ahead? (c : Cursor) (i : Nat) : Option Char := c.rest[i]?

def head? (c : Cursor) : Option Char := c.rest.head?

def isAt (c : Cursor) (ch : Char) : Bool := c.head? == some ch

def atEnd (c : Cursor) : Bool := c.rest.isEmpty

def atBreak (c : Cursor) : Bool := c.head?.any isBreak

def atGap (c : Cursor) : Bool := c.head?.any isGap

def atLineEnd (c : Cursor) : Bool := c.atEnd || c.atBreak

/-- Whether a space, a tab, a line break or the end comes some places ahead. -/
def blankAhead (c : Cursor) (i : Nat) : Bool :=
  (c.ahead? i).all fun ch => isGap ch || isBreak ch

/-- Whether a space, a tab, a line break or the end is at the position. -/
def atBlank (c : Cursor) : Bool := c.blankAhead 0

def skip (c : Cursor) (n : Nat) : Cursor :=
  { c with
    rest := c.rest.drop n
    column := c.column + n
    offset := c.offset + Text.byteCount (c.rest.take n) }

def next (c : Cursor) : Cursor := c.skip 1

/-- Move over a line break. -/
def nextLine (c : Cursor) : Cursor :=
  match c.rest with
  | '\r' :: '\n' :: rest => ⟨rest, c.line + 1, 0, c.offset + 2⟩
  | ch :: rest => ⟨rest, c.line + 1, 0, c.offset + ch.utf8Size⟩
  | [] => c

/-- What a line break contributes to a text: a line feed, except that the two Unicode separators
stay as they are. At the end of the text there is none. -/
def breakText (c : Cursor) : List Char :=
  match c.head? with
  | none => []
  | some '\u2028' => ['\u2028']
  | some '\u2029' => ['\u2029']
  | some _ => ['\n']

/-- Move over the longest run of characters of a class that contains no line breaks. -/
def skipWhile (c : Cursor) (p : Char → Bool) : Cursor := c.skip (c.rest.takeWhile p).length

/-- Whether one of the markers `---` and `...` stands alone at the start of a line. -/
def atMarker (c : Cursor) (marker : List Char) : Bool :=
  c.column == 0 && marker.isPrefixOf c.rest && c.blankAhead 3

/-- Whether a document ends or starts at the position. -/
def atDocumentMarker (c : Cursor) : Bool :=
  c.atMarker ['-', '-', '-'] || c.atMarker ['.', '.', '.']

end Cursor

end OpGraph.Yaml
