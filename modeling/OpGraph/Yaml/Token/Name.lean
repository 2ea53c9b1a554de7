import OpGraph.Numeral
import OpGraph.Yaml.Cursor
import OpGraph.Yaml.Token

/-!
# Names in a YAML text

Anchors, tags and directives. Each reader starts at the indicator and returns the token and the
position behind it, or nothing if the text is malformed. What is malformed follows the documented
behaviour of a package outside the repository.
-/

namespace OpGraph.Yaml

def readWord (c : Cursor) : String × Cursor :=
  let word := c.rest.takeWhile isWord
  (String.ofList word, c.skip word.length)

/-- Whether an anchor may end at the position. -/
def endsAnchor (c : Cursor) : Bool :=
  c.atBlank || c.head?.any fun ch =>
    ch == '?' || ch == ':' || ch == ',' || ch == ']' || ch == '\x7d' || ch == '%' || ch == '@'
      || ch == '\x60'

/-- Read the name of an anchor or of a reference. -/
def readAnchor (c : Cursor) : Option (String × Cursor) :=
  let (name, c) := readWord c.next
  if name = "" ∨ !endsAnchor c then none else some (name, c)

/-- Characters of a tag outside angle brackets. -/
def isTagChar (c : Char) : Bool :=
  isWord c || [';', '/', '?', ':', '@', '&', '=', '+', '$', '.', '%', '!', '~', '*', '\'', '(',
    ')'].contains c

/-- Characters of a tag between angle brackets and of the expansion of a tag handle. -/
def isUriChar (c : Char) : Bool := isTagChar c || c == ',' || c == '[' || c == ']'

/-- Read one escaped byte, a percent sign and two hexadecimal digits. -/
def readByte : List Char → Option (UInt8 × List Char)
  | '%' :: a :: b :: rest => do return (UInt8.ofNat (← Numeral.natIn? 16 [a, b]), rest)
  | _ => none

/-- The number of bytes behind the first byte of a character. -/
def continuationLength? (b : UInt8) : Option Nat :=
  if b &&& 0x80 == 0 then some 0
  else if b &&& 0xE0 == 0xC0 then some 1
  else if b &&& 0xF0 == 0xE0 then some 2
  else if b &&& 0xF8 == 0xF0 then some 3
  else none

/-- Read the escaped bytes behind the first byte of a character. -/
def readContinuation : Nat → List Char → Option (List UInt8 × List Char)
  | 0, cs => some ([], cs)
  | n + 1, cs => do
    let (b, cs) ← readByte cs
    if b &&& 0xC0 != 0x80 then none
    let (bs, cs) ← readContinuation n cs
    return (b :: bs, cs)

/-- Replace the escaped bytes of a tag. The first byte of a character tells how many follow, but
which characters there are is not looked at. What is not escaped stands for itself. -/
def unescapeUri : Nat → List Char → Option (List UInt8)
  | 0, _ => some []
  | _ + 1, [] => some []
  | fuel + 1, ch :: rest =>
    if ch = '%' then do
      let (b, rest) ← readByte (ch :: rest)
      let (bs, rest) ← readContinuation (← continuationLength? b) rest
      return b :: bs ++ (← unescapeUri fuel rest)
    else return String.utf8EncodeChar ch ++ (← unescapeUri fuel rest)

/-- Read a run of tag characters, which may contain escaped bytes. A zero byte ends what is kept. -/
def readUri (p : Char → Bool) (c : Cursor) : Option (List UInt8 × Cursor) := do
  let uri := c.rest.takeWhile p
  return ((← unescapeUri uri.length uri).takeWhile (· != 0), c.skip uri.length)

def readSomeUri (p : Char → Bool) (c : Cursor) : Option (List UInt8 × Cursor) :=
  if c.head?.any p then readUri p c else none

/-- Read a tag: `!<verbatim>`, `!handle!suffix` or `!suffix`. The tag `!` has no handle. -/
def readTag (flow : Bool) (c : Cursor) : Option (Token × Cursor) := do
  let (token, c) ←
    if c.ahead? 1 = some '<' then do
      let (bytes, c) ← readSomeUri isUriChar (c.skip 2)
      if !c.isAt '>' then none
      pure (.tag "" bytes, c.next)
    else do
      let (word, afterWord) := readWord c.next
      if afterWord.isAt '!' then
        let (suffix, c) ← readSomeUri isTagChar afterWord.next
        pure (.tag s!"!{word}!" suffix, c)
      else
        let (suffix, c) ← readUri isTagChar c.next
        pure (if suffix = [] then .tag "" (Tag.ofText "!").bytes else .tag "!" suffix, c)
  if c.atBlank || (flow && c.isAt ',') then return (token, c) else none

/-- Read a number of at most nine digits. -/
def readVersionNumber (c : Cursor) : Option (Nat × Cursor) := do
  let digits := c.rest.takeWhile Char.isDigit
  if 9 < digits.length then none
  return (← Numeral.nat? digits, c.skip digits.length)

def readVersion (c : Cursor) : Option (Token × Cursor) := do
  let (major, c) ← readVersionNumber (c.skipWhile isGap)
  if !c.isAt '.' then none
  let (minor, c) ← readVersionNumber c.next
  return (.versionDirective major minor, c)

/-- Read a tag handle in a directive: `!`, `!!` or `!word!`. -/
def readHandle (c : Cursor) : Option (String × Cursor) := do
  if !c.isAt '!' then none
  let (word, afterWord) := readWord c.next
  if afterWord.isAt '!' then return (s!"!{word}!", afterWord.next)
  if word = "" then return ("!", afterWord) else none

def readTagDirective (c : Cursor) : Option (Token × Cursor) := do
  let (handle, c) ← readHandle (c.skipWhile isGap)
  if !c.atGap then none
  let (expansion, c) ← readSomeUri isUriChar (c.skipWhile isGap)
  if !c.atBlank then none
  return (.tagDirective handle expansion, c)

/-- Read a directive, of the version or of a tag handle. -/
def readDirective (c : Cursor) : Option (Token × Cursor) := do
  let (name, c) := readWord c.next
  if !c.atBlank then none
  let (token, c) ←
    match name with
    | "YAML" => readVersion c
    | "TAG" => readTagDirective c
    | _ => none
  let c := c.skipWhile isGap
  let c := if c.isAt '#' then c.skipWhile (!isBreak ·) else c
  if c.atLineEnd then return (token, c.nextLine) else none

end OpGraph.Yaml
