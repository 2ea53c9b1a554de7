import OpGraph.Yaml.Token.Stream

/-!
# From tokens to trees

The tree of a document as it is written. Where the tokens do not fit or run out, the tree ends in an
unreadable leaf, so that what was understood before the fault is still there. The grammar follows
the documented behaviour of a package outside the repository.
-/

namespace OpGraph.Yaml

/-- A scalar with its tag. -/
structure Scalar where
  text : String
  style : Style
  tag : Option Tag
  deriving DecidableEq, Repr, Inhabited

def Scalar.absent : Scalar := ⟨"", .plain, none⟩

/-- A node of a document. -/
inductive Tree where
  | scalar (anchor : Option String) (content : Scalar)
  | sequence (anchor : Option String) (tag : Option Tag) (items : List Tree)
  | mapping (anchor : Option String) (tag : Option Tag) (entries : List (Tree × Tree))
  | alias (name : String)
  -- the text is malformed from here on
  | unreadable
  deriving Repr, Inhabited

namespace Tree

def absent : Tree := .scalar none .absent

/-- A result of reading with the tokens behind it; without them the tokens did not fit. -/
structure Read (α : Type) where
  value : α
  rest : Option (List Token)

/-- The result where the tokens do not fit. -/
def Read.fault : Read Tree := ⟨.unreadable, none⟩

/-- Tag handles with their expansions. -/
abbrev Handles := List (String × List UInt8)

/-- The handles that need no directive. -/
def defaultHandles : Handles :=
  [("!", (Tag.ofText "!").bytes), ("!!", (Tag.ofText "tag:yaml.org,2002:").bytes)]

/-- The anchor and the tag of a node. -/
structure Properties where
  anchor : Option String := none
  tag : Option (String × List UInt8) := none

/-- Take the properties of a node, an anchor and a tag in either order. -/
def properties : List Token → Properties × List Token
  | .anchor a :: .tag h s :: rest => (⟨some a, some (h, s)⟩, rest)
  | .tag h s :: .anchor a :: rest => (⟨some a, some (h, s)⟩, rest)
  | .anchor a :: rest => (⟨some a, none⟩, rest)
  | .tag h s :: rest => (⟨none, some (h, s)⟩, rest)
  | rest => ({}, rest)

/-- The tag in full; an unknown handle is a fault. -/
def fullTag? (handles : Handles) : Option (String × List UInt8) → Option (Option Tag)
  | none => some none
  | some ("", suffix) => some (some ⟨suffix⟩)
  | some (handle, suffix) =>
    (handles.lookup handle).map fun expansion => some ⟨expansion ++ suffix⟩

/-- Where a node stands decides which tokens may start it. -/
inductive Context where
  | flow
  -- in a block sequence or at the top
  | block
  -- in a block mapping, where a sequence needs no indentation of its own
  | blockEntry
  deriving DecidableEq

mutual

def readNode (handles : Handles) : Nat → Context → List Token → Read Tree
  | 0, _, _ => .fault
  | _ + 1, _, .alias name :: rest => ⟨.alias name, some rest⟩
  | fuel + 1, context, tokens =>
    let (props, tokens) := properties tokens
    match fullTag? handles props.tag with
    | none => .fault
    | some tag =>
      match tokens with
      | [] => .fault
      | .scalar text style :: rest => ⟨.scalar props.anchor ⟨text, style, tag⟩, some rest⟩
      | .flowSequenceStart :: rest =>
        let r := readFlowItems handles fuel true rest
        ⟨.sequence props.anchor tag r.value, r.rest⟩
      | .flowMappingStart :: rest =>
        let r := readFlowEntries handles fuel true rest
        ⟨.mapping props.anchor tag r.value, r.rest⟩
      | t :: rest =>
        if t = .blockEntry ∧ context = .blockEntry then
          let r := readPlainItems handles fuel (t :: rest)
          ⟨.sequence props.anchor tag r.value, r.rest⟩
        else if t = .blockSequenceStart ∧ context ≠ .flow then
          let r := readBlockItems handles fuel rest
          ⟨.sequence props.anchor tag r.value, r.rest⟩
        else if t = .blockMappingStart ∧ context ≠ .flow then
          let r := readBlockEntries handles fuel rest
          ⟨.mapping props.anchor tag r.value, r.rest⟩
        else if props.anchor.isSome ∨ tag.isSome then
          ⟨.scalar props.anchor ⟨"", .plain, tag⟩, some (t :: rest)⟩
        else .fault

/-- Read a node unless the next token is one of those before which a node may be absent. -/
def readOptional (handles : Handles) :
    Nat → Context → List Token → List Token → Read Tree
  | 0, _, _, _ => .fault
  | _ + 1, _, _, [] => .fault
  | fuel + 1, context, followers, t :: rest =>
    if t ∈ followers then ⟨.absent, some (t :: rest)⟩
    else readNode handles fuel context (t :: rest)

def readBlockItems (handles : Handles) : Nat → List Token → Read (List Tree)
  | 0, _ => ⟨[.unreadable], none⟩
  | fuel + 1, .blockEntry :: rest =>
    let item := readOptional handles fuel .block [.blockEntry, .blockEnd] rest
    match item.rest with
    | none => ⟨[item.value], none⟩
    | some rest =>
      let r := readBlockItems handles fuel rest
      ⟨item.value :: r.value, r.rest⟩
  | _ + 1, .blockEnd :: rest => ⟨[], some rest⟩
  | _ + 1, _ => ⟨[.unreadable], none⟩

/-- Read the items of a block sequence that has no indentation of its own. -/
def readPlainItems (handles : Handles) : Nat → List Token → Read (List Tree)
  | 0, _ => ⟨[.unreadable], none⟩
  | fuel + 1, .blockEntry :: rest =>
    let item := readOptional handles fuel .block [.blockEntry, .key, .value, .blockEnd] rest
    match item.rest with
    | none => ⟨[item.value], none⟩
    | some rest =>
      let r := readPlainItems handles fuel rest
      ⟨item.value :: r.value, r.rest⟩
  | _ + 1, [] => ⟨[.unreadable], none⟩
  | _ + 1, rest => ⟨[], some rest⟩

/-- Read the value of a key, absent unless there is a colon. -/
def readValue (handles : Handles) :
    Nat → Context → List Token → List Token → Read Tree
  | 0, _, _, _ => .fault
  | _ + 1, _, _, [] => .fault
  | fuel + 1, context, followers, .value :: rest =>
    readOptional handles fuel context followers rest
  | _ + 1, _, _, rest => ⟨.absent, some rest⟩

/-- Read the entries of a block mapping. -/
def readBlockEntries (handles : Handles) : Nat → List Token → Read (List (Tree × Tree))
  | 0, _ => ⟨[(.unreadable, .unreadable)], none⟩
  | fuel + 1, .key :: rest =>
    let followers := [.key, .value, .blockEnd]
    let key := readOptional handles fuel .blockEntry followers rest
    match key.rest with
    | none => ⟨[(key.value, .unreadable)], none⟩
    | some rest =>
      let value := readValue handles fuel .blockEntry followers rest
      match value.rest with
      | none => ⟨[(key.value, value.value)], none⟩
      | some rest =>
        let r := readBlockEntries handles fuel rest
        ⟨(key.value, value.value) :: r.value, r.rest⟩
  | _ + 1, .blockEnd :: rest => ⟨[], some rest⟩
  | _ + 1, _ => ⟨[(.unreadable, .unreadable)], none⟩

def readFlowItems (handles : Handles) : Nat → Bool → List Token → Read (List Tree)
  | 0, _, _ => ⟨[.unreadable], none⟩
  | fuel + 1, first, tokens =>
    match tokens with
    | .flowSequenceEnd :: rest => ⟨[], some rest⟩
    | _ =>
      let tokens :=
        match first, tokens with
        | true, tokens => tokens
        | false, .flowEntry :: rest => rest
        | false, _ => []
      match tokens with
      | .flowSequenceEnd :: rest => ⟨[], some rest⟩
      | .key :: rest =>
        let pair := readFlowPair handles fuel rest
        match pair.rest with
        | none => ⟨[pair.value], none⟩
        | some rest =>
          let r := readFlowItems handles fuel false rest
          ⟨pair.value :: r.value, r.rest⟩
      | tokens =>
        let item := readNode handles fuel .flow tokens
        match item.rest with
        | none => ⟨[item.value], none⟩
        | some rest =>
          let r := readFlowItems handles fuel false rest
          ⟨item.value :: r.value, r.rest⟩

/-- Read an item of a flow sequence that is a mapping of one entry. Where its key is absent, the
token behind the key's indicator is passed over. -/
def readFlowPair (handles : Handles) : Nat → List Token → Read Tree
  | 0, _ => .fault
  | fuel + 1, tokens =>
    let key : Read Tree :=
      match tokens with
      | .value :: rest => ⟨.absent, some rest⟩
      | .flowEntry :: rest => ⟨.absent, some rest⟩
      | .flowSequenceEnd :: rest => ⟨.absent, some rest⟩
      | tokens => readNode handles fuel .flow tokens
    let pair (value : Tree) : Tree := .mapping none none [(key.value, value)]
    match key.rest with
    | none => ⟨pair .unreadable, none⟩
    | some rest =>
      let value := readValue handles fuel .flow [.flowEntry, .flowSequenceEnd] rest
      ⟨pair value.value, value.rest⟩

def readFlowEntries (handles : Handles) : Nat → Bool → List Token → Read (List (Tree × Tree))
  | 0, _, _ => ⟨[(.unreadable, .unreadable)], none⟩
  | fuel + 1, first, tokens =>
    match tokens with
    | .flowMappingEnd :: rest => ⟨[], some rest⟩
    | _ =>
      let tokens :=
        match first, tokens with
        | true, tokens => tokens
        | false, .flowEntry :: rest => rest
        | false, _ => []
      match tokens with
      | .flowMappingEnd :: rest => ⟨[], some rest⟩
      | tokens =>
        let (key, marked) : Read Tree × Bool :=
          match tokens with
          | .key :: rest =>
            (readOptional handles fuel .flow [.value, .flowEntry, .flowMappingEnd] rest, true)
          | tokens => (readNode handles fuel .flow tokens, false)
        match key.rest with
        | none => ⟨[(key.value, .unreadable)], none⟩
        | some rest =>
          let value : Read Tree :=
            if marked then readValue handles fuel .flow [.flowEntry, .flowMappingEnd] rest
            else if rest.isEmpty then .fault
            else ⟨.absent, some rest⟩
          match value.rest with
          | none => ⟨[(key.value, value.value)], none⟩
          | some rest =>
            let r := readFlowEntries handles fuel false rest
            ⟨(key.value, value.value) :: r.value, r.rest⟩

end

end Tree

/-- The document of a text. -/
structure Parsed where
  root : Tree
  -- whether nothing but the end of the text follows the document
  complete : Bool
  deriving Repr, Inhabited

namespace Parsed

/-- Whether nothing but end markers and the end of the text is left. -/
def endsWell : List Token → Bool
  | .documentEnd :: rest => endsWell rest
  | [.streamEnd] => true
  | _ => false

structure Directives where
  versioned : Bool := false
  handles : Tree.Handles := []

/-- Read the directives before a document. A directive given twice and a version other than 1.1 and
1.2 are faults. -/
def readDirectives : Directives → List Token → Option (Directives × List Token)
  | d, .versionDirective major minor :: rest =>
    if d.versioned ∨ major ≠ 1 ∨ (minor ≠ 1 ∧ minor ≠ 2) then none
    else readDirectives { d with versioned := true } rest
  | d, .tagDirective handle expansion :: rest =>
    if (d.handles.lookup handle).isSome then none
    else readDirectives { d with handles := d.handles ++ [(handle, expansion)] } rest
  | d, rest => some (d, rest)

def malformed : Parsed := ⟨.unreadable, false⟩

/-- The document with a given root. -/
def ofRoot (r : Tree.Read Tree) : Parsed := ⟨r.value, r.rest.any endsWell⟩

/-- Read a document whose start is marked. -/
def readMarked (tokens : List Token) : Parsed :=
  match readDirectives {} tokens with
  | some (d, .documentStart :: rest) =>
    match rest with
    | [] => malformed
    | t :: _ =>
      let isAbsent :=
        match t with
        | .versionDirective .. | .tagDirective .. | .documentStart
          | .documentEnd | .streamEnd => true
        | _ => false
      if isAbsent then ⟨.absent, endsWell rest⟩
      else
        ofRoot (Tree.readNode (d.handles ++ Tree.defaultHandles) (8 * rest.length + 8) .block rest)
  | _ => malformed

/-- Read the document at the start of the tokens. A text without any counts as an absent scalar.
Each call of a reader uses up a token or is the last of at most four on the same tokens. -/
def ofTokens (tokens : List Token) : Parsed :=
  match tokens with
  | [] => malformed
  | [.streamEnd] => ⟨.absent, true⟩
  | .versionDirective .. :: _ | .tagDirective .. :: _ | .documentStart :: _ => readMarked tokens
  | tokens =>
    ofRoot (Tree.readNode Tree.defaultHandles (8 * tokens.length + 8) .block tokens)

/-- Read the document of a text. -/
def ofText (text : String) : Parsed := ofTokens (Tokens.ofText text).list

end Parsed

end OpGraph.Yaml
