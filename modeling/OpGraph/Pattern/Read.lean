import OpGraph.Numeral
import OpGraph.Pattern.Basic
import OpGraph.Text.Alphanumeric
import OpGraph.Text.Basic

/-!
# Reading patterns

Each reader starts behind what announces its part and returns the part and the state behind it, or
nothing if the text is malformed. The syntax is the documented one of a package outside the
repository. While the verbose flag is on, blanks do not count, nor does a number sign with the rest
of its line.
-/

namespace OpGraph.Pattern

/-- The state of reading. -/
structure Reading where
  rest : List Char
  verbose : Bool := false
  names : List String := []

/-- Skip blanks and comments. -/
def skipBlanksFrom : Nat → List Char → List Char
  | 0, cs => cs
  | fuel + 1, cs =>
    match cs.dropWhile Text.isBlank with
    | '#' :: rest => skipBlanksFrom fuel (rest.dropWhile (· != '\n'))
    | rest => rest

namespace Reading

/-- Skip what does not count. -/
def skipBlanks (r : Reading) : Reading :=
  if r.verbose then { r with rest := skipBlanksFrom (r.rest.length + 1) r.rest } else r

def moveTo (r : Reading) (rest : List Char) : Reading := { r with rest }

end Reading

/-! ## Escapes -/

def readHexDigits : Nat → Reading → Option (List Char × Reading)
  | 0, r => some ([], r)
  | n + 1, r => do
    match r.skipBlanks.rest with
    | [] => none
    | c :: rest =>
      let (digits, r) ← readHexDigits n (r.moveTo rest)
      return (c :: digits, r)

/-- Read a character by its number, written with some hexadecimal digits. -/
def readNumber (count : Nat) (r : Reading) : Option (Literal × Reading) := do
  let (digits, r) ← readHexDigits count r
  let n ← Numeral.natIn? 16 digits
  if n.isValidChar then return (⟨Char.ofNat n, count == 2⟩, r) else none

/-- The characters that letters behind a backslash stand for. -/
def letterEscape? : Char → Option Char
  | 'a' => some '\x07'
  | 'f' => some '\x0c'
  | 't' => some '\t'
  | 'n' => some '\n'
  | 'r' => some '\r'
  | 'v' => some '\x0b'
  | _ => none

/-- Read an escape behind its backslash. Properties of characters and references to groups are no
part of patterns. -/
def readEscape (r : Reading) : Option (Pattern × Reading) := do
  match r.rest with
  | [] => none
  | c :: rest =>
    let r := r.moveTo rest
    match c with
    | 'x' => (readNumber 2 r).map fun (l, r) => (.literal l, r)
    | 'u' => (readNumber 4 r).map fun (l, r) => (.literal l, r)
    | 'U' => (readNumber 8 r).map fun (l, r) => (.literal l, r)
    | 'd' | 's' | 'w' => some (.shorthand false, r)
    | 'D' | 'S' | 'W' => some (.shorthand true, r)
    | 'A' | 'z' => some (.anchor, r)
    | 'b' | 'B' | '<' | '>' => some (.wordBoundary, r)
    | c =>
      match letterEscape? c with
      | some escaped => some (.literal ⟨escaped, false⟩, r)
      | none =>
        if c.toNat < 0x80 && !c.isAlphanum then some (.literal ⟨c, false⟩, r) else none

/-! ## Sets -/

/-- The names of sets of ASCII characters. -/
def setNames : List String :=
  ["alnum", "alpha", "ascii", "blank", "cntrl", "digit", "graph", "lower", "print", "punct",
    "space", "upper", "word", "xdigit"]

/-- Read a named set, such as `[:alpha:]` or `[:^alpha:]`, behind its first bracket. -/
def readNamedSet : List Char → Option (CharSet × List Char)
  | ':' :: cs =>
    let (negated, cs) :=
      match cs with
      | '^' :: cs => (true, cs)
      | cs => (false, cs)
    match cs.span (· != ':') with
    | (name, ':' :: ']' :: rest) =>
      if setNames.contains (String.ofList name) then some (.named negated, rest) else none
    | _ => none
  | _ => none

/-- The character that decides whether a dash is part of a range, the next that counts. Of a comment
only the number sign is passed over, and at the end the very next character decides. -/
def decider (r : Reading) : Option Char :=
  if r.verbose then
    let later :=
      match r.rest.dropWhile Text.isBlank with
      | '#' :: rest => rest.dropWhile Text.isBlank
      | rest => rest
    later.head?.or r.rest.head?
  else r.rest.head?

/-- Read a character of a set, or an escape. -/
def readSetPart (r : Reading) : Option (Pattern × Reading) :=
  match r.rest with
  | [] => none
  | '\\' :: rest => readEscape (r.moveTo rest)
  | c :: rest => some (.literal ⟨c, false⟩, r.moveTo rest)

/-- The contribution of a part to a set. -/
def asSet? : Pattern → Option CharSet
  | .literal l => some (.literal l)
  | .shorthand negated => some (.shorthand negated)
  | _ => none

/-- The range between two parts. -/
def rangeOf? : Pattern → Pattern → Option CharSet
  | .literal first, .literal last =>
    if first.char ≤ last.char then some (.range first last) else none
  | _, _ => none

/-- Read a part of a set or a range. A dash before a bracket or another dash starts no range. -/
def readSetRange (r : Reading) : Option (CharSet × Reading) := do
  let (first, r) ← readSetPart r
  let r := r.skipBlanks
  match r.rest with
  | '-' :: rest =>
    let behind := r.moveTo rest
    if decider behind = some ']' ∨ decider behind = some '-' then return (← asSet? first, r)
    let (last, r) ← readSetPart behind.skipBlanks
    return (← rangeOf? first last, r)
  | _ => return (← asSet? first, r)

/-- The set of some parts, given in reverse. -/
def unionOf (parts : List CharSet) : CharSet :=
  match parts with
  | [] => .empty
  | [part] => part
  | parts => .union parts.reverse

/-- Pass over the caret that negates a set. -/
def readNegation (r : Reading) : Bool × Reading :=
  match r.skipBlanks.rest with
  | '^' :: rest => (true, r.moveTo rest)
  | _ => (false, r)

/-- Read a set up to its closing bracket. What stands before the last operator is `left`, and
`parts` are the parts behind it in reverse. At the opening of a set dashes stand for themselves, and
so does a bracket in the first place. -/
def readSet : Nat → Bool → Option CharSet → List CharSet → Reading → Option (CharSet × Reading)
  | 0, _, _, _, _ => none
  | fuel + 1, opening, left, parts, r =>
    let r := r.skipBlanks
    let whole :=
      match left with
      | none => unionOf parts
      | some left => .combination left (unionOf parts)
    match r.rest with
    | [] => none
    | c :: rest =>
      if opening && (c == '-' || (c == ']' && parts.isEmpty)) then
        readSet fuel (c == '-') left (.literal ⟨c, false⟩ :: parts) (r.moveTo rest)
      else if c = ']' then some (whole, r.moveTo rest)
      else if (c == '&' || c == '-' || c == '~') && rest.head? == some c then
        readSet fuel false (some whole) [] (r.moveTo rest.tail)
      else if c = '[' then
        match readNamedSet rest with
        | some (part, rest) => readSet fuel false left (part :: parts) (r.moveTo rest)
        | none => do
          let (negated, r) := readNegation (r.moveTo rest)
          let (inner, r) ← readSet fuel true none [] r
          readSet fuel false left (.bracketed negated inner :: parts) r
      else do
        let (part, r) ← readSetRange r
        readSet fuel false left (part :: parts) r

/-! ## Groups -/

/-- What stands at the start of parentheses. -/
inductive Opening where
  -- flags alone
  | flags (change : FlagChange)
  -- the start of a group, with flags for it
  | group (change : FlagChange)

/-- Read flags up to a colon or closing parenthesis. A dash turns those behind it off. -/
def readFlags : List Char → Bool → FlagChange → Option (FlagChange × List Char)
  | [], _, _ => none
  | c :: rest, value, change =>
    if c = ':' ∨ c = ')' then some (change, c :: rest)
    else if c = '-' then
      if !value || rest.head?.any (fun d => d == ':' || d == ')') then none
      else readFlags rest false change
    else do
      let flag ← Flag.ofLetter? c
      if (change.lookup flag).isSome then none
      readFlags rest value (change ++ [(flag, value)])

/-- Whether a text can name a group. -/
def isGroupName : List Char → Bool
  | [] => false
  | c :: cs =>
    (c == '_' || Text.isAlphabetic c)
      && cs.all fun c => c == '_' || c == '.' || c == '[' || c == ']' || Text.isAlphanumeric c

/-- Read the name of a group. No two groups have the same. -/
def readGroupName (r : Reading) : Option Reading :=
  match r.rest.span (· != '>') with
  | (name, _ :: rest) =>
    let text := String.ofList name
    if isGroupName name ∧ text ∉ r.names then some { r with rest, names := text :: r.names }
    else none
  | _ => none

/-- Read behind an opening parenthesis what comes before the part in parentheses. Looking ahead or
back is no part of patterns. -/
def readOpening (r : Reading) : Option (Opening × Reading) := do
  let r := r.skipBlanks
  match r.rest with
  | '?' :: '=' :: _ | '?' :: '!' :: _ | '?' :: '<' :: '=' :: _ | '?' :: '<' :: '!' :: _ => none
  | '?' :: 'P' :: '<' :: rest | '?' :: '<' :: rest =>
    return (.group [], ← readGroupName (r.moveTo rest))
  | '?' :: rest =>
    let (change, rest) ← readFlags rest true []
    match rest with
    | ':' :: rest => return (.group change, r.moveTo rest)
    | _ :: rest => if change = [] then none else return (.flags change, r.moveTo rest)
    | [] => none
  | _ => return (.group [], r)

/-! ## Expressions -/

def alternativesOf (parts : List Pattern) : Pattern :=
  match parts with
  | [] => .empty
  | [part] => part
  | parts => .alternatives parts.reverse

def sequenceOf (parts : List Pattern) : Pattern :=
  match parts with
  | [] => .empty
  | [part] => part
  | parts => .sequence parts.reverse

/-- Make the last part of a sequence a repetition. Flags cannot be repeated. -/
def repeatLast : List Pattern → Option (List Pattern)
  | [] => none
  | .flags _ :: _ => none
  | part :: parts => some (.repetition part :: parts)

/-- Read a part that has no parts itself. -/
def readPart (r : Reading) : Option (Pattern × Reading) :=
  match r.rest with
  | [] => none
  | '\\' :: rest => readEscape (r.moveTo rest)
  | '.' :: rest => some (.any, r.moveTo rest)
  | '^' :: rest => some (.anchor, r.moveTo rest)
  | '$' :: rest => some (.anchor, r.moveTo rest)
  | c :: rest => some (.literal ⟨c, false⟩, r.moveTo rest)

/-- Read up to a closing parenthesis or the end. The alternatives before the current one and the
parts of the current one are given in reverse. A question mark behind the sign of a repetition
belongs to it; counts of repetitions are no part of patterns. -/
def readExpression :
    Nat → List Pattern → List Pattern → Reading → Option (Pattern × Reading)
  | 0, _, _, _ => none
  | fuel + 1, before, parts, r => do
    let r := r.skipBlanks
    match r.rest with
    | [] => return (alternativesOf (sequenceOf parts :: before), r)
    | c :: rest =>
      let behind := r.moveTo rest
      if c = ')' then return (alternativesOf (sequenceOf parts :: before), r)
      else if c = '|' then readExpression fuel (sequenceOf parts :: before) [] behind
      else if c = '(' then
        let (opening, inside) ← readOpening behind
        match opening with
        | .flags change =>
          readExpression fuel before (.flags change :: parts)
            { inside with verbose := (change.lookup .verbose).getD r.verbose }
        | .group change =>
          let (part, after) ← readExpression fuel [] []
            { inside with verbose := (change.lookup .verbose).getD r.verbose }
          match after.rest with
          | [] => none
          | _ :: rest =>
            readExpression fuel before (.group change part :: parts)
              { after with rest, verbose := r.verbose }
      else if c = '[' then
        let (negated, r) := readNegation behind
        let (content, r) ← readSet fuel true none [] r
        readExpression fuel before (.set negated content :: parts) r
      else if c = '?' ∨ c = '*' ∨ c = '+' then
        let rest := if rest.head? = some '?' then rest.tail else rest
        readExpression fuel before (← repeatLast parts) (r.moveTo rest)
      else if c = '\x7b' then none
      else
        let (part, r) ← readPart r
        readExpression fuel before (part :: parts) r

/-- The pattern of a text. Every step of reading takes up a character. -/
def ofText? (text : List Char) : Option Pattern := do
  let (p, r) ← readExpression (text.length + 1) [] [] { rest := text }
  if r.rest = [] then return p else none

end OpGraph.Pattern
