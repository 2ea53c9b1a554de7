import OpGraph.Yaml.Token.Name
import OpGraph.Yaml.Token.Scalar

/-!
# From text to tokens

Whether a node is a key shows only at the colon behind it, so the place before each node that may be
a key is remembered until that is settled; a colon then puts the missing tokens there. When the text
is malformed, the tokens before the earliest open place are those that were certain before. The
rules, and the limit of 1024 bytes for a key, are the documented behaviour of a package outside the
repository.
-/

namespace OpGraph.Yaml

/-- A place where a key may turn out to start. -/
structure KeyCandidate where
  position : Nat
  cursor : Cursor
  -- whether the node must be a key, since it starts at the column of a block mapping
  required : Bool

/-- The state of reading. -/
structure Reading where
  cursor : Cursor
  -- the tokens read, latest first
  tokens : List Token := []
  count : Nat := 0
  -- the column of the current block collection, `-1` outside all
  indent : Int := -1
  -- the columns of the collections around it, innermost first
  outerIndents : List Int := []
  keyAllowed : Bool := true
  candidate : Option KeyCandidate := none
  -- the open key candidates outside each surrounding flow collection, innermost first
  outerCandidates : List (Option KeyCandidate) := []
  ended : Bool := false

namespace Reading

/-- Whether the position is inside a flow collection. -/
def inFlow (r : Reading) : Bool := !r.outerCandidates.isEmpty

def push (r : Reading) (t : Token) : Reading :=
  { r with tokens := t :: r.tokens, count := r.count + 1 }

/-- Insert a token behind the first `position` tokens. -/
def insertAt (r : Reading) (position : Nat) (t : Token) : Reading :=
  let later := r.count - position
  { r with
    tokens := r.tokens.take later ++ t :: r.tokens.drop later
    count := r.count + 1 }

/-- The tokens before the earliest open key candidate, in order. -/
def settled (r : Reading) : List Token :=
  let positions := (r.candidate :: r.outerCandidates).filterMap fun k => k.map KeyCandidate.position
  r.tokens.reverse.take (positions.foldl min r.count)

/-- Whether a key candidate is too far back. -/
def isStale (c : Cursor) (k : KeyCandidate) : Bool :=
  k.cursor.line < c.line || k.cursor.offset + 1024 < c.offset

/-- Give up a candidate that is too far back; that is an error if it must be a key. -/
def expire (c : Cursor) : Option KeyCandidate → Option (Option KeyCandidate)
  | none => some none
  | some k => if isStale c k then (if k.required then none else some none) else some (some k)

/-- Give up all candidates that are too far back. -/
def expireCandidates (r : Reading) : Option Reading := do
  let outerCandidates ← r.outerCandidates.reverse.mapM (expire r.cursor)
  let candidate ← expire r.cursor r.candidate
  return { r with candidate, outerCandidates := outerCandidates.reverse }

/-- Close the open candidate; that is an error if it must be a key. -/
def closeCandidate (r : Reading) : Option Reading :=
  if r.candidate.any KeyCandidate.required then none else some { r with candidate := none }

/-- Remember that a key may start here. -/
def openCandidate (r : Reading) : Option Reading :=
  if r.keyAllowed then do
    let r ← r.closeCandidate
    return { r with candidate := some {
      position := r.count
      cursor := r.cursor
      required := !r.inFlow && r.indent == r.cursor.column } }
  else some r

/-- Begin a block collection at a column right of the current one. -/
def indentTo (r : Reading) (column position : Nat) (t : Token) : Reading :=
  if !r.inFlow ∧ r.indent < column then
    { r with indent := column, outerIndents := r.indent :: r.outerIndents }.insertAt position t
  else r

/-- End the block collections right of a column. -/
def dedentTo (column : Int) : List Int → Reading → Reading
  | outer :: outerIndents, r =>
    if column < r.indent then
      dedentTo column outerIndents
        ({ r with indent := outer, outerIndents }.push .blockEnd)
    else r
  | [], r => r

/-- End the block collections right of a column, except inside a flow collection. -/
def dedent (r : Reading) (column : Int) : Reading :=
  if r.inFlow then r else dedentTo column r.outerIndents r

/-- Skip spaces, comments and line breaks up to the next token. A tab does not count as a space
where a key may start in a block. A byte order mark may open a line. -/
def skipToToken : Nat → Reading → Reading
  | 0, r => r
  | fuel + 1, r =>
    let c := if r.cursor.column = 0 ∧ r.cursor.isAt '\ufeff' then r.cursor.next else r.cursor
    let c := c.skipWhile fun ch => ch == ' ' || ((r.inFlow || !r.keyAllowed) && ch == '\t')
    let c := if c.isAt '#' then c.skipWhile (!isBreak ·) else c
    if c.atBreak then
      skipToToken fuel { r with cursor := c.nextLine, keyAllowed := !r.inFlow || r.keyAllowed }
    else { r with cursor := c }

def take (r : Reading) (t : Token) (length : Nat) : Reading :=
  { r with cursor := r.cursor.skip length }.push t

def takeEnd (r : Reading) : Option Reading := do
  let r ← (r.dedent (-1)).closeCandidate
  return { r with keyAllowed := false, ended := true }.push .streamEnd

def takeDirective (r : Reading) : Option Reading := do
  let r ← (r.dedent (-1)).closeCandidate
  let (t, cursor) ← readDirective r.cursor
  return { r with keyAllowed := false, cursor }.push t

def takeMarker (r : Reading) (t : Token) : Option Reading := do
  let r ← (r.dedent (-1)).closeCandidate
  return { r with keyAllowed := false }.take t 3

def takeFlowStart (r : Reading) (t : Token) : Option Reading := do
  let r ← r.openCandidate
  return { r with
    keyAllowed := true
    candidate := none
    outerCandidates := r.candidate :: r.outerCandidates }.take t 1

def takeFlowEnd (r : Reading) (t : Token) : Option Reading := do
  let r ← r.closeCandidate
  let r :=
    match r.outerCandidates with
    | candidate :: outerCandidates => { r with candidate, outerCandidates }
    | [] => r
  return { r with keyAllowed := false }.take t 1

def takeFlowEntry (r : Reading) : Option Reading := do
  let r ← r.closeCandidate
  return { r with keyAllowed := true }.take .flowEntry 1

def takeBlockEntry (r : Reading) : Option Reading := do
  if !r.inFlow && !r.keyAllowed then none
  let r := r.indentTo r.cursor.column r.count .blockSequenceStart
  let r ← r.closeCandidate
  return { r with keyAllowed := true }.take .blockEntry 1

def takeKey (r : Reading) : Option Reading := do
  if !r.inFlow && !r.keyAllowed then none
  let r := r.indentTo r.cursor.column r.count .blockMappingStart
  let r ← r.closeCandidate
  return { r with keyAllowed := !r.inFlow }.take .key 1

/-- A colon before a value. It makes the open candidate a key. -/
def takeValue (r : Reading) : Option Reading :=
  match r.candidate with
  | some k =>
    let r := (r.insertAt k.position .key).indentTo k.cursor.column k.position .blockMappingStart
    some ({ r with candidate := none, keyAllowed := false }.take .value 1)
  | none => do
    if !r.inFlow && !r.keyAllowed then none
    let r := r.indentTo r.cursor.column r.count .blockMappingStart
    return { r with keyAllowed := !r.inFlow }.take .value 1

/-- A token that may be part of a key. -/
def takePart (r : Reading) (read : Cursor → Option (Token × Cursor)) : Option Reading := do
  let r ← r.openCandidate
  let (t, cursor) ← read r.cursor
  return { r with keyAllowed := false, cursor }.push t

def takeBlockScalar (r : Reading) (style : Style) : Option Reading := do
  let r ← r.closeCandidate
  let (text, cursor) ← readBlock (style = .literal) r.indent r.cursor
  return { r with keyAllowed := true, cursor }.push (.scalar (String.ofList text) style)

def takeQuoted (r : Reading) (style : Style) : Option Reading :=
  r.takePart fun c => do
    let (text, c) ← readQuoted (style = .singleQuoted) c
    return (.scalar (String.ofList text) style, c)

/-- A plain scalar. Behind a line break a key may start again. -/
def takePlain (r : Reading) : Option Reading := do
  let r ← r.openCandidate
  let s ← readPlain r.inFlow (r.indent + 1).toNat r.cursor
  return { r with keyAllowed := s.broken, cursor := s.cursor }.push
    (.scalar (String.ofList s.text) .plain)

/-- Characters that cannot start a plain scalar, three of them unless a word follows. -/
def isIndicator (c : Char) : Bool :=
  ['-', '?', ':', ',', '[', ']', '\x7b', '\x7d', '#', '&', '*', '!', '|', '>', '\'', '\x22', '%',
    '@', '\x60'].contains c

/-- Whether a plain scalar starts at the position. -/
def startsPlain (r : Reading) : Bool :=
  let c := r.cursor
  match c.head? with
  | none => false
  | some ch =>
    !(isGap ch || isBreak ch || isIndicator ch)
      || (ch == '-' && !(c.ahead? 1).any isGap)
      || (!r.inFlow && (ch == '?' || ch == ':') && !c.blankAhead 1)

/-- Read one token, or several where a key becomes certain. -/
def takeToken (r : Reading) : Option Reading :=
  let c := r.cursor
  let separate := r.inFlow || c.blankAhead 1
  match c.head? with
  | none => r.takeEnd
  | some ch =>
    if c.column = 0 ∧ ch = '%' then r.takeDirective
    else if c.atMarker ['-', '-', '-'] then r.takeMarker .documentStart
    else if c.atMarker ['.', '.', '.'] then r.takeMarker .documentEnd
    else if ch = '[' then r.takeFlowStart .flowSequenceStart
    else if ch = '\x7b' then r.takeFlowStart .flowMappingStart
    else if ch = ']' then r.takeFlowEnd .flowSequenceEnd
    else if ch = '\x7d' then r.takeFlowEnd .flowMappingEnd
    else if ch = ',' then r.takeFlowEntry
    else if ch = '-' ∧ c.blankAhead 1 then r.takeBlockEntry
    else if ch = '?' ∧ separate then r.takeKey
    else if ch = ':' ∧ separate then r.takeValue
    else if ch = '*' then r.takePart fun c => do
      let (name, c) ← readAnchor c
      return (.alias name, c)
    else if ch = '&' then r.takePart fun c => do
      let (name, c) ← readAnchor c
      return (.anchor name, c)
    else if ch = '!' then r.takePart (readTag r.inFlow)
    else if ch = '|' ∧ !r.inFlow then r.takeBlockScalar .literal
    else if ch = '>' ∧ !r.inFlow then r.takeBlockScalar .folded
    else if ch = '\'' then r.takeQuoted .singleQuoted
    else if ch = '\x22' then r.takeQuoted .doubleQuoted
    else if r.startsPlain then r.takePlain
    else none

/-- Skip to the next token, end what its column ends, and read it. -/
def advance (r : Reading) : Option Reading := do
  let r ← (skipToToken (r.cursor.rest.length + 1) r).expireCandidates
  (r.dedent r.cursor.column).takeToken

end Reading

/-- The tokens of a text. -/
structure Tokens where
  list : List Token
  deriving Repr

namespace Tokens

/-- The tokens of a text that has been read to its end. The end also ends the last line, so a place
where a key must start is a fault if it is still open. -/
def complete (before r : Reading) : List Token :=
  if r.outerCandidates.any fun k => k.any KeyCandidate.required then before.settled
  else r.tokens.reverse

/-- Read tokens up to the end of the text or a fault. A key that fails to appear in time counts as a
fault of the token before, so `before` is the state before that token. Where the text is not whole,
its end is a fault. -/
def collect (whole : Bool) : Nat → Reading → Reading → List Token
  | 0, before, _ => before.settled
  | fuel + 1, before, r =>
    match r.expireCandidates with
    | none => before.settled
    | some r =>
      match r.advance with
      | none => r.settled
      | some r' =>
        if !whole && r'.cursor.atEnd then r.settled
        else if r'.ended then complete r r'
        else collect whole fuel r r'

/-- The number of bytes that fit into a portion. -/
def portionSize : Nat := 16384

/-- Split a text behind the last character that fits into some bytes. -/
def takePortion : Nat → List Char → List Char × List Char
  | _, [] => ([], [])
  | room, c :: cs =>
    if c.utf8Size ≤ room then
      let (portion, rest) := takePortion (room - c.utf8Size) cs
      (c :: portion, rest)
    else ([], c :: cs)

/-- The portions of a text before the first with a character that is not allowed. -/
def allowedPart : Nat → List Char → List Char
  | 0, _ => []
  | _ + 1, [] => []
  | fuel + 1, cs =>
    let (portion, rest) := takePortion portionSize cs
    if portion.all isAllowed then portion ++ allowedPart fuel rest else []

/-- The tokens of a text, up to the first fault. The text is taken in portions, and a portion with a
character that is not allowed is not read at all. Every token but the last takes up a character. -/
def ofText (text : String) : Tokens :=
  let cs := text.toList
  let allowed := allowedPart cs.length cs
  let r : Reading := { cursor := .start allowed }
  ⟨collect (allowed.length == cs.length) (allowed.length + 2) r r⟩

end Tokens

end OpGraph.Yaml
