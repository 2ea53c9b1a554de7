import OpGraph.Numeral
import OpGraph.Yaml.Cursor

/-!
# Scalars in a YAML text

The three ways to write a scalar: plain, between quotes, and as an indented block. A single line
break inside a flow scalar counts as a space, of several the first is dropped. All this follows the
documented behaviour of a package outside the repository.
-/

namespace OpGraph.Yaml

/-- White space between two words of a flow scalar. -/
structure Gap where
  blanks : List Char := []
  firstBreak : List Char := []
  -- the line breaks after the first
  moreBreaks : List Char := []
  broken : Bool := false

namespace Gap

/-- What the white space contributes to the text. -/
def text (g : Gap) : List Char :=
  if g.broken then
    if g.firstBreak = ['\n'] then (if g.moreBreaks = [] then [' '] else g.moreBreaks)
    else g.firstBreak ++ g.moreBreaks
  else g.blanks

/-- Read on through white space. After a line break, a tab left of the column `indent` is an
error. -/
def read (indent : Nat) : Nat → Cursor → Gap → Option (Gap × Cursor)
  | 0, c, g => some (g, c)
  | fuel + 1, c, g =>
    match c.head? with
    | none => some (g, c)
    | some ch =>
      if isGap ch then
        if g.broken then
          if c.column < indent ∧ ch = '\t' then none else read indent fuel c.next g
        else read indent fuel c.next { g with blanks := g.blanks ++ [ch] }
      else if isBreak ch then
        if g.broken then
          read indent fuel c.nextLine { g with moreBreaks := g.moreBreaks ++ c.breakText }
        else read indent fuel c.nextLine { g with firstBreak := c.breakText, broken := true }
      else some (g, c)

end Gap

/-- Characters that end a plain scalar inside a flow collection. -/
def isFlowIndicator (c : Char) : Bool :=
  c == ',' || c == '[' || c == ']' || c == '\x7b' || c == '\x7d'

/-- The number of characters up to the end of a word of a plain scalar: white space, a colon before
white space, or inside a flow collection an indicator. There a colon before an indicator is an
error. -/
def plainWordLength (flow : Bool) : List Char → Option Nat
  | [] => some 0
  | c :: rest =>
    if isGap c || isBreak c then some 0
    else if flow && c == ':' && rest.head?.any (fun d => isFlowIndicator d || d == '?') then none
    else if c == ':' && rest.head?.all (fun d => isGap d || isBreak d) then some 0
    else if flow && isFlowIndicator c then some 0
    else (plainWordLength flow rest).map (· + 1)

/-- A scalar that has been read. -/
structure ScalarRead where
  text : List Char
  -- the position behind it and behind the white space that follows
  cursor : Cursor
  -- whether the white space that follows contains a line break
  broken : Bool

/-- Read the words of a plain scalar. In a block the scalar ends before a line that is indented less
than `indent`. -/
def readPlainFrom (flow : Bool) (indent : Nat) :
    Nat → Cursor → List Char → Gap → Option ScalarRead
  | 0, c, text, gap => some ⟨text, c, gap.broken⟩
  | fuel + 1, c, text, gap =>
    if c.atDocumentMarker || c.isAt '#' then some ⟨text, c, gap.broken⟩
    else do
      let length ← plainWordLength flow c.rest
      let (text, gap) :=
        if length = 0 then (text, gap) else (text ++ gap.text ++ c.rest.take length, {})
      let c := c.skip length
      if !(c.atGap || c.atBreak) then return ⟨text, c, gap.broken⟩
      let (gap, c) ← gap.read indent c.rest.length c
      if !flow && c.column < indent then return ⟨text, c, gap.broken⟩
      readPlainFrom flow indent fuel c text gap

/-- Read a plain scalar. -/
def readPlain (flow : Bool) (indent : Nat) (c : Cursor) : Option ScalarRead :=
  readPlainFrom flow indent (c.rest.length + 1) c [] {}

/-- The character of an escape with one letter. -/
def simpleEscape? : Char → Option Char
  | '0' => some '\x00'
  | 'a' => some '\x07'
  | 'b' => some '\x08'
  | 't' | '\t' => some '\t'
  | 'n' => some '\n'
  | 'v' => some '\x0b'
  | 'f' => some '\x0c'
  | 'r' => some '\r'
  | 'e' => some '\x1b'
  | ' ' => some ' '
  | '\x22' => some '\x22'
  | '/' => some '/'
  | '\\' => some '\\'
  | 'N' => some '\u0085'
  | '_' => some '\u00a0'
  | 'L' => some '\u2028'
  | 'P' => some '\u2029'
  | _ => none

/-- The number of hexadecimal digits that follow an escape letter. -/
def escapeDigits? : Char → Option Nat
  | 'x' => some 2
  | 'u' => some 4
  | 'U' => some 8
  | _ => none

/-- The character of a number, unless it is a surrogate or too large. -/
def charOf? (n : Nat) : Option Char := if n.isValidChar then some (Char.ofNat n) else none

/-- Read the part of an escape behind the backslash. -/
def readEscape (c : Cursor) : Option (Char × Cursor) := do
  let letter ← c.head?
  match simpleEscape? letter with
  | some ch => return (ch, c.next)
  | none =>
    let count ← escapeDigits? letter
    let digits := c.next.rest.take count
    if digits.length < count then none
    else return (← charOf? (← Numeral.natIn? 16 digits), c.skip (count + 1))

/-- Read inside quotes up to white space or the closing quote. The flag tells whether an escaped
line break was passed. -/
def readQuotedWord (single : Bool) : Nat → Cursor → List Char → Option (List Char × Cursor × Bool)
  | 0, c, text => some (text, c, false)
  | fuel + 1, c, text =>
    match c.head? with
    | none => some (text, c, false)
    | some ch =>
      if isGap ch || isBreak ch then some (text, c, false)
      else if single then
        if ch = '\'' then
          if c.ahead? 1 = some '\'' then readQuotedWord single fuel (c.skip 2) (text ++ ['\''])
          else some (text, c, false)
        else readQuotedWord single fuel c.next (text ++ [ch])
      else if ch = '\x22' then some (text, c, false)
      else if ch = '\\' then
        if c.next.atBreak then some (text, c.next.nextLine, true)
        else do
          let (escaped, c) ← readEscape c.next
          readQuotedWord single fuel c (text ++ [escaped])
      else readQuotedWord single fuel c.next (text ++ [ch])

/-- Read the words between quotes. -/
def readQuotedFrom (single : Bool) : Nat → Cursor → List Char → Option (List Char × Cursor)
  | 0, _, _ => none
  | fuel + 1, c, text => do
    if c.atDocumentMarker || c.atEnd then none
    let (text, c, escapedBreak) ← readQuotedWord single (c.rest.length + 1) c text
    if c.isAt (if single then '\'' else '\x22') then return (text, c.next)
    let (gap, c) ← Gap.read 0 c.rest.length c { broken := escapedBreak }
    readQuotedFrom single fuel c (text ++ gap.text)

/-- Read a scalar between single or double quotes. -/
def readQuoted (single : Bool) (c : Cursor) : Option (List Char × Cursor) :=
  readQuotedFrom single (c.rest.length + 1) c.next []

/-- What becomes of the line breaks at the end of a block scalar. -/
inductive Chomping where
  -- all are dropped
  | strip
  -- the first stays
  | clip
  -- all stay
  | keep
  deriving DecidableEq

/-- The chomping indicator at the position. -/
def chompingAt (c : Cursor) : Option Chomping :=
  match c.head? with
  | some '+' => some .keep
  | some '-' => some .strip
  | _ => none

/-- Read the two optional indicators in the header of a block scalar, in either order: the chomping
and the indentation, a digit from one to nine, with zero for none. -/
def readBlockHeader (c : Cursor) : Option (Chomping × Nat × Cursor) :=
  let digit? (c : Cursor) : Option (Option Nat) :=
    match c.head? with
    | some ch =>
      if ch = '0' then none else if ch.isDigit then some (some (ch.toNat - 48)) else some none
    | none => some none
  match chompingAt c with
  | some chomping => do
    match ← digit? c.next with
    | some n => return (chomping, n, c.next.next)
    | none => return (chomping, 0, c.next)
  | none => do
    match ← digit? c with
    | none => return (.clip, 0, c)
    | some n =>
      match chompingAt c.next with
      | some chomping => return (chomping, n, c.next.next)
      | none => return (.clip, n, c.next)

/-- Read the empty lines before a line of a block scalar. While `indent` is zero it is not known
yet; the deepest of the lines read determines it. -/
def readEmptyLines (indent : Nat) :
    Nat → Cursor → List Char → Nat → Option (List Char × Cursor × Nat)
  | 0, c, breaks, deepest => some (breaks, c, deepest)
  | fuel + 1, c, breaks, deepest =>
    let spaces := (c.rest.takeWhile (· == ' ')).length
    let c := c.skip (if indent = 0 then spaces else min spaces (indent - c.column))
    let deepest := max deepest c.column
    if (indent = 0 || c.column < indent) && c.isAt '\t' then none
    else if c.atBreak then
      readEmptyLines indent fuel c.nextLine (breaks ++ c.breakText) deepest
    else some (breaks, c, deepest)

/-- The state between two lines of a block scalar. -/
structure BlockState where
  -- the text so far, without the line breaks that follow it
  text : List Char := []
  lineBreak : List Char := []
  -- the breaks of the empty lines after it
  emptyLines : List Char := []
  -- whether the last line starts with white space
  indented : Bool := false

/-- Read the lines of a block scalar. In a folded scalar the break between two lines that do not
start with white space becomes a space, or vanishes before empty lines. -/
def readBlockLines (literal : Bool) (indent : Nat) :
    Nat → Cursor → BlockState → Option (BlockState × Cursor)
  | 0, c, s => some (s, c)
  | fuel + 1, c, s =>
    if c.column = indent ∧ !c.atEnd then do
      let indented := c.atGap
      let join :=
        if !literal && s.lineBreak == ['\n'] && !s.indented && !indented then
          if s.emptyLines = [] then [' '] else []
        else s.lineBreak
      let line := c.rest.takeWhile (!isBreak ·)
      let c := c.skip line.length
      let lineBreak := c.breakText
      let (emptyLines, c, _) ← readEmptyLines indent (c.rest.length + 1) c.nextLine [] 0
      readBlockLines literal indent fuel c
        ⟨s.text ++ join ++ s.emptyLines ++ line, lineBreak, emptyLines, indented⟩
    else some (s, c)

/-- Read a block scalar whose parent is indented by `parent`, with `-1` for the whole document. -/
def readBlock (literal : Bool) (parent : Int) (c : Cursor) : Option (List Char × Cursor) := do
  let (chomping, increment, c) ← readBlockHeader c.next
  let c := c.skipWhile isGap
  let c := if c.isAt '#' then c.skipWhile (!isBreak ·) else c
  if !c.atLineEnd then none
  let c := c.nextLine
  let indent := if increment = 0 then 0 else (max parent 0).toNat + increment
  let (emptyLines, c, deepest) ← readEmptyLines indent (c.rest.length + 1) c [] 0
  let indent := if indent = 0 then max (max deepest (parent + 1).toNat) 1 else indent
  let (s, c) ← readBlockLines literal indent (c.rest.length + 1) c { emptyLines }
  let text :=
    match chomping with
    | .strip => s.text
    | .clip => s.text ++ s.lineBreak
    | .keep => s.text ++ s.lineBreak ++ s.emptyLines
  return (text, c)

end OpGraph.Yaml
