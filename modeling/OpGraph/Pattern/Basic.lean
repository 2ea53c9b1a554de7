/-!
# Patterns

A pattern is a regular expression, of which the parts and their nesting are kept. Which patterns are
accepted and supported is the documented behaviour of packages outside the repository: they match
with automata over bytes and without tables of Unicode properties, so no part may need such a table,
and none may match a part of a character.
-/

namespace OpGraph

namespace Pattern

/-- A flag, written as a letter. -/
inductive Flag where
  | ignoreCase
  | multiLine
  | dotAll
  | swapGreed
  | unicode
  | crlf
  | verbose
  deriving DecidableEq, Repr

def Flag.ofLetter? : Char → Option Flag
  | 'i' => some .ignoreCase
  | 'm' => some .multiLine
  | 's' => some .dotAll
  | 'U' => some .swapGreed
  | 'u' => some .unicode
  | 'R' => some .crlf
  | 'x' => some .verbose
  | _ => none

/-- Flags with the values they are set to. -/
abbrev FlagChange := List (Flag × Bool)

/-- The flags that decide what is supported. -/
structure Flags where
  ignoreCase : Bool := false
  unicode : Bool := true
  deriving DecidableEq, Repr, Inhabited

def Flags.change (f : Flags) (c : FlagChange) : Flags :=
  ⟨(c.lookup .ignoreCase).getD f.ignoreCase, (c.lookup .unicode).getD f.unicode⟩

/-- A character that stands for itself. -/
structure Literal where
  char : Char
  -- whether it is written as a byte, by two hexadecimal digits
  isByte : Bool := false
  deriving DecidableEq, Repr, Inhabited

/-- What stands between the brackets of a set. -/
inductive CharSet where
  | empty
  | literal (l : Literal)
  | range (first last : Literal)
  -- a set of ASCII characters with a name
  | named (negated : Bool)
  | shorthand (negated : Bool)
  | bracketed (negated : Bool) (inner : CharSet)
  | union (parts : List CharSet)
  | combination (left right : CharSet)
  deriving Repr, Inhabited

end Pattern

open Pattern in
/-- The outline of a pattern. -/
inductive Pattern where
  | empty
  -- a change of flags up to the end of the surrounding group
  | flags (change : FlagChange)
  | literal (l : Literal)
  | any
  -- a start or end of the text or of a line
  | anchor
  -- a place between a word and what is none
  | wordBoundary
  | shorthand (negated : Bool)
  | set (negated : Bool) (content : CharSet)
  | repetition (part : Pattern)
  | group (change : FlagChange) (part : Pattern)
  | alternatives (parts : List Pattern)
  | sequence (parts : List Pattern)
  deriving Repr, Inhabited

namespace Pattern

/-! ## Nesting -/

namespace CharSet

mutual

/-- The number of brackets, unions and combinations nested in each other. -/
def depth : CharSet → Nat
  | empty | literal _ | range .. | named _ | shorthand _ => 0
  | bracketed _ inner => depth inner + 1
  | union parts => depthAll parts + 1
  | combination left right => max (depth left) (depth right) + 1

def depthAll : List CharSet → Nat
  | [] => 0
  | s :: ss => max (depth s) (depthAll ss)

end

end CharSet

mutual

/-- The number of parts nested in each other that have parts themselves. -/
def depth : Pattern → Nat
  | empty | flags _ | literal _ | any | anchor | wordBoundary | shorthand _ => 0
  | set _ content => content.depth + 1
  | repetition part => depth part + 1
  | group _ part => depth part + 1
  | alternatives parts => depthAll parts + 1
  | sequence parts => depthAll parts + 1

def depthAll : List Pattern → Nat
  | [] => 0
  | p :: ps => max (depth p) (depthAll ps)

end

/-- The greatest depth a pattern may have. -/
def depthLimit : Nat := 250

/-! ## Support -/

/-- Whether a character can be matched. Ignoring its case needs a table, and outside Unicode a byte
above 7F is no character. -/
def Literal.isSupported (f : Flags) (l : Literal) : Bool :=
  if f.unicode then !f.ignoreCase else !l.isByte || l.char.toNat < 0x80

namespace CharSet

/-- Whether a character can be in a set. Outside Unicode it must be one of ASCII. -/
def allows (f : Flags) (l : Literal) : Bool :=
  if f.unicode then !f.ignoreCase else l.char.toNat < 0x80

mutual

/-- Whether a set can be matched. The digits, blanks and word characters of Unicode need tables, and
outside Unicode the complement of a set contains parts of characters. -/
def isSupported (f : Flags) : CharSet → Bool
  | empty => true
  | literal l => allows f l
  | range first last => allows f first && allows f last
  | named negated => if f.unicode then !f.ignoreCase else !negated
  | shorthand negated => !f.unicode && !negated
  | bracketed negated inner => (f.unicode || !negated) && isSupported f inner
  | union parts => areSupported f parts
  | combination left right => isSupported f left && isSupported f right

def areSupported (f : Flags) : List CharSet → Bool
  | [] => true
  | s :: ss => isSupported f s && areSupported f ss

end

end CharSet

mutual

/-- The flags behind a pattern that can be matched under the flags before it. -/
def flagsAfter? (f : Flags) : Pattern → Option Flags
  | empty | anchor => some f
  | flags change => some (f.change change)
  | literal l => if l.isSupported f then some f else none
  | any => if f.unicode then some f else none
  | wordBoundary => if f.unicode then none else some f
  | shorthand negated => if (CharSet.shorthand negated).isSupported f then some f else none
  | set negated content =>
    if (CharSet.bracketed negated content).isSupported f then some f else none
  | repetition part => flagsAfter? f part
  | group change part => (flagsAfter? (f.change change) part).map fun _ => f
  | alternatives parts => flagsAfterAll? f parts
  | sequence parts => flagsAfterAll? f parts

/-- The flags behind patterns that can be matched, each under the flags behind the one before. -/
def flagsAfterAll? (f : Flags) : List Pattern → Option Flags
  | [] => some f
  | p :: ps => (flagsAfter? f p).bind fun f => flagsAfterAll? f ps

end

def isSupported (p : Pattern) : Bool := p.depth ≤ depthLimit && (flagsAfter? {} p).isSome

end Pattern

end OpGraph
