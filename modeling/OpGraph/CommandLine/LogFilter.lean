import OpGraph.Binary64.Basic
import OpGraph.Numeral
import OpGraph.Pattern.Read
import OpGraph.Text.Alphanumeric
import OpGraph.Text.Basic

/-!
# Log filters

A filter is a list of directives separated by commas: a level, or a target, a span in brackets or
both, with a level behind an equals sign. Which of them are accepted is the documented behaviour of
a package outside the repository.
-/

namespace OpGraph.LogFilter

/-- Why a text is not accepted as a filter. -/
inductive Fault where
  | malformed
  -- a part would start or end inside a character
  | brokenCharacter
  deriving DecidableEq, Repr

/-- Whether a text names a level, by name in any letter case or by number. -/
def isLevel (cs : List Char) : Bool :=
  let number? := match cs with
    | '+' :: rest => Numeral.nat? rest
    | _ => Numeral.nat? cs
  match number? with
  | some n => n ≤ 5
  | none =>
    ["error", "warn", "info", "debug", "trace", "off"].contains
      (String.ofList (cs.map Char.toLower))

/-- Whether a text can be the value of a field: a number or a pattern. The truth values are
patterns. -/
def isFieldValue (cs : List Char) : Bool :=
  (Binary64.ofText? (String.ofList cs)).isSome || (Pattern.ofText? cs).any Pattern.isSupported

/-- Whether a text is a field: a name, which may be any text, and a value behind an equals sign.
What follows another equals sign does not count. -/
def isField (cs : List Char) : Bool :=
  match cs.splitOn '=' with
  | _ :: value :: _ => isFieldValue value
  | _ => cs ≠ []

/-- The part of a directive that is being read, with the place where it starts. -/
inductive State where
  | start
  -- a level or a target
  | name (start : Nat)
  | span (start : Nat)
  | field (start : Nat)
  | fields
  | target
  -- the level behind an equals sign
  | level (start : Nat)
  deriving DecidableEq, Repr

def startsName (c : Char) : Bool := c == '-' || c == ':' || c == '_' || Text.isAlphanumeric c

def part (directive : List Char) (start stop : Nat) : Except Fault (List Char) :=
  match Text.slice? start stop directive with
  | some cs => .ok cs
  | none => .error .brokenCharacter

/-- One character, at its place in bytes. A part is cut out of the directive as soon as its end is
met, and the cut may fail. -/
def step (directive : List Char) (place : Nat) (c : Char) : State → Except Fault State
  | .start =>
    if c = '[' then .ok (.span (place + 1))
    else if startsName c then .ok (.name place)
    else .error .malformed
  | .name start => do
    if c = '=' then
      let _ ← part directive start place
      return .level (place + 1)
    else if c = '[' then
      let _ ← part directive start place
      return .span (place + 1)
    else return .name start
  | .span start => do
    if c = ']' then
      let _ ← part directive start place
      return .target
    else if c = '\x7b' then
      let _ ← part directive start place
      return .field (place + 1)
    else return .span start
  | .field start => do
    if c = '\x7d' then
      if isField (← part directive start place) then return .fields else throw .malformed
    else return .field start
  | .fields => if c = ']' then .ok .target else .error .malformed
  | .target => if c = '=' then .ok (.level (place + 1)) else .error .malformed
  | .level start => .ok (.level start)

/-- All characters of a directive, from the first to the last. -/
def run (directive : List Char) : Nat → State → List Char → Except Fault State
  | _, s, [] => .ok s
  | place, s, c :: cs => do run directive (place + c.utf8Size) (← step directive place c s) cs

/-- Whether a directive is accepted. It is read without the blanks around it, but the parts are cut
out of the directive with them. -/
def checkDirective (directive : List Char) : Except Fault Unit := do
  match ← run directive 0 .start (Text.trim directive) with
  | .name _ | .target => return
  | .level start =>
    let level ← part directive start (Text.byteCount directive)
    if level.isEmpty || isLevel level then return else throw .malformed
  | _ => throw .malformed

/-- Whether a filter is accepted. The first directive that is not decides why. -/
def check (filter : String) : Except Fault Unit :=
  ((filter.toList.splitOn ',').filter (· ≠ [])).forM checkDirective

end OpGraph.LogFilter
