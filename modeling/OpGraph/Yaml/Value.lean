import OpGraph.Yaml.Tree

/-!
# From trees to values

References are replaced by what they refer to. How names are numbered and how deep and how often
references are followed is the documented behaviour of a package outside the repository; what lies
beyond a limit is unreadable.
-/

namespace OpGraph.Yaml

/-- Documents without references. -/
inductive Value where
  | scalar (content : Scalar)
  | sequence (tag : Option Tag) (items : List Value)
  | mapping (tag : Option Tag) (entries : List (Value × Value))
  -- the text is malformed from here on
  | unreadable
  deriving Repr, Inhabited

/-- The names given so far with their numbers. -/
structure Names where
  -- the names with their present numbers, each once
  numbers : List (String × Nat) := []
  -- whether a name was used that had not been given. The text counts as malformed from there on
  stopped : Bool := false

namespace Names

/-- Give a name, if there is one; the result is its number. -/
def give (names : Names) (anchor : Option String) : Option String × Names :=
  match anchor with
  | none => (none, names)
  | some name =>
    if names.stopped then (none, names)
    else
      let number := names.numbers.length
      (some (Nat.repr number),
        { names with numbers := (name, number) :: names.numbers.filter (·.1 != name) })

/-- The reference to a name by its number. -/
def refer (names : Names) (name : String) : Tree × Names :=
  match names.stopped, names.numbers.lookup name with
  | false, some number => (.alias (Nat.repr number), names)
  | _, _ => (.unreadable, { names with stopped := true })

end Names

namespace Tree

mutual

/-- Put numbers in place of names, in document order. -/
def renumber : Tree → Names → Tree × Names
  | .scalar anchor s, names =>
    let (anchor, names) := names.give anchor
    (.scalar anchor s, names)
  | .sequence anchor tag items, names =>
    let (anchor, names) := names.give anchor
    let (items, names) := renumberAll items names
    (.sequence anchor tag items, names)
  | .mapping anchor tag entries, names =>
    let (anchor, names) := names.give anchor
    let (entries, names) := renumberEntries entries names
    (.mapping anchor tag entries, names)
  | .alias name, names => names.refer name
  | .unreadable, names => (.unreadable, names)

def renumberAll : List Tree → Names → List Tree × Names
  | [], names => ([], names)
  | t :: ts, names =>
    let (t, names) := renumber t names
    let (ts, names) := renumberAll ts names
    (t :: ts, names)

def renumberEntries : List (Tree × Tree) → Names → List (Tree × Tree) × Names
  | [], names => ([], names)
  | (k, v) :: es, names =>
    let (k, names) := renumber k names
    let (v, names) := renumber v names
    let (es, names) := renumberEntries es names
    ((k, v) :: es, names)

end

mutual

/-- The nodes that have an anchor, with it, in document order. -/
def anchored : Tree → List (String × Tree)
  | .scalar anchor s => (anchor.map fun a => (a, .scalar anchor s)).toList
  | .sequence anchor tag items =>
    (anchor.map fun a => (a, .sequence anchor tag items)).toList ++ anchoredAll items
  | .mapping anchor tag entries =>
    (anchor.map fun a => (a, .mapping anchor tag entries)).toList ++ anchoredEntries entries
  | .alias _ => []
  | .unreadable => []

def anchoredAll : List Tree → List (String × Tree)
  | [] => []
  | t :: ts => anchored t ++ anchoredAll ts

def anchoredEntries : List (Tree × Tree) → List (String × Tree)
  | [] => []
  | (k, v) :: es => anchored k ++ anchored v ++ anchoredEntries es

end

mutual

/-- The number of scalars and references, and of starts and ends of collections. -/
def size : Tree → Nat
  | .scalar .. => 1
  | .sequence _ _ items => 2 + sizeAll items
  | .mapping _ _ entries => 2 + sizeEntries entries
  | .alias _ => 1
  | .unreadable => 0

def sizeAll : List Tree → Nat
  | [] => 0
  | t :: ts => size t + sizeAll ts

def sizeEntries : List (Tree × Tree) → Nat
  | [] => 0
  | (k, v) :: es => size k + size v + sizeEntries es

end

/-- The node a reference stands for, as long as references may be followed; other nodes stand for
themselves. -/
def follow (targets : List (String × Tree)) : Tree → StateM Nat Tree
  | .alias name => do
    match ← get with
    | 0 => return .unreadable
    | budget + 1 =>
      set budget
      return (targets.lookup name).getD .unreadable
  | t => return t

/-- The value of a node, with collections nested to a given depth. The state counts the references
that may still be followed. -/
def expand (targets : List (String × Tree)) : Nat → Tree → StateM Nat Value
  | 0, t => do
    match ← follow targets t with
    | .scalar _ s => return .scalar s
    | _ => return .unreadable
  | depth + 1, t => do
    match ← follow targets t with
    | .scalar _ s => return .scalar s
    | .sequence _ tag items => return .sequence tag (← items.mapM (expand targets depth))
    | .mapping _ tag entries =>
      return .mapping tag (← entries.mapM fun e => do
        return (← expand targets depth e.1, ← expand targets depth e.2))
    | _ => return .unreadable

/-- The greatest number of collections nested in each other. -/
def depthLimit : Nat := 128

/-- The number of references that may be followed for each node of a document. -/
def referenceLimit : Nat := 100

/-- The value of a document, with references followed. -/
def value (t : Tree) : Value :=
  let t := (t.renumber {}).1
  ((expand t.anchored.reverse depthLimit t).run (referenceLimit * t.size)).1

end Tree

end OpGraph.Yaml
