import ArchLint.Yaml.Token

/-!
The nodes of a YAML document, made from its tokens. Where a node is missing between two tokens that
allow it, there is an empty scalar.
-/

namespace ArchLint.Yaml

/-- What may stand in front of a node. -/
structure Properties where
  anchor : Option (List Char) := none
  tag : Option (List Char) := none
  deriving Repr

inductive Node where
  | alias (name : List Char)
  | scalar (p : Properties) (isPlain : Bool) (text : List Char)
  | list (p : Properties) (items : List Node)
  | table (p : Properties) (entries : List (Node × Node))
  deriving Repr

namespace Node

def empty : Node := scalar {} true []

end Node

/-- The meanings of handles of tags. -/
abbrev TagHandles := List (List Char × List Char)

/-- The handles that every document knows. -/
def standardHandles : TagHandles :=
  [(['!'], ['!']), (['!', '!'], "tag:yaml.org,2002:".toList)]

/-- The tag that a handle and a suffix stand for. -/
def resolveTag? (handles : TagHandles) (handle suffix : List Char) : Option (List Char) :=
  if handle.isEmpty then some suffix else (handles.lookup handle).map (· ++ suffix)

/-- Anchor and tag in front of a node, in either order. -/
def properties? (handles : TagHandles) : List Token → Option (Properties × List Token)
  | .anchor a :: .tag h s :: ts =>
    (resolveTag? handles h s).map fun tag => ({ anchor := some a, tag := some tag }, ts)
  | .tag h s :: .anchor a :: ts =>
    (resolveTag? handles h s).map fun tag => ({ anchor := some a, tag := some tag }, ts)
  | .anchor a :: ts => some ({ anchor := some a }, ts)
  | .tag h s :: ts => (resolveTag? handles h s).map fun tag => ({ tag := some tag }, ts)
  | ts => some ({}, ts)

/-- A scalar whose tag only says that it has none is untagged. -/
def Node.ofScalar (p : Properties) (isPlain : Bool) (text : List Char) : Node :=
  .scalar { p with tag := p.tag.filter fun t => t ≠ ['!'] ∧ t ≠ [] } isPlain text

/-- Is a token one of those before which a node may be missing? -/
def startsWith (stops : List Token) (ts : List Token) : Bool := ts.head?.any (· ∈ stops)

/-- Tokens before which a node of a block table may be missing. -/
def tableStops : List Token := [.key, .value, .blockEnd]

/-- Where a node stands. -/
inductive Place where
  /-- In brackets. -/
  | flow
  | block
  /-- In a block table, where a list need not be indented. -/
  | blockTable
  deriving DecidableEq, Repr

mutual

/-- A node at the head of the tokens. -/
def node? (hs : TagHandles) (place : Place) : (fuel : Nat) → List Token → Option (Node × List Token)
  | 0, _ => none
  | fuel + 1, ts =>
    match ts with
    | .alias name :: ts => some (.alias name, ts)
    | ts =>
      (properties? hs ts).bind fun (p, ts) =>
        match place, ts with
        | .blockTable, .item :: _ =>
          (looseItems? hs fuel ts).map fun (items, ts) => (.list p items, ts)
        | _, .scalar isPlain text :: ts => some (Node.ofScalar p isPlain text, ts)
        | _, .flowList :: ts =>
          (flowItems? hs true fuel ts).map fun (items, ts) => (.list p items, ts)
        | _, .flowTable :: ts =>
          (flowEntries? hs true fuel ts).map fun (entries, ts) => (.table p entries, ts)
        | place, ts =>
          match decide (place = .flow), ts with
          | false, .blockList :: ts =>
            (blockItems? hs fuel ts).map fun (items, ts) => (.list p items, ts)
          | false, .blockTable :: ts =>
            (blockEntries? hs fuel ts).map fun (entries, ts) => (.table p entries, ts)
          | _, ts =>
            if p.anchor.isSome ∨ p.tag.isSome then some (.scalar p true [], ts) else none

/-- A node, or an empty one where it is missing. -/
def nodeUnless? (hs : TagHandles) (place : Place) (stops : List Token) :
    (fuel : Nat) → List Token → Option (Node × List Token)
  | 0, _ => none
  | fuel + 1, ts => if startsWith stops ts then some (.empty, ts) else node? hs place fuel ts

/-- The items of an indented list, up to its end. -/
def blockItems? (hs : TagHandles) : (fuel : Nat) → List Token → Option (List Node × List Token)
  | 0, _ => none
  | fuel + 1, ts =>
    match ts with
    | .blockEnd :: ts => some ([], ts)
    | .item :: ts =>
      match nodeUnless? hs .block [.item, .blockEnd] fuel ts with
      | some (n, ts) => (blockItems? hs fuel ts).map fun (ns, ts) => (n :: ns, ts)
      | none => none
    | _ => none

/-- The items of a list that is not indented. -/
def looseItems? (hs : TagHandles) : (fuel : Nat) → List Token → Option (List Node × List Token)
  | 0, _ => none
  | fuel + 1, ts =>
    match ts with
    | .item :: ts =>
      match nodeUnless? hs .block (.item :: tableStops) fuel ts with
      | some (n, ts) => (looseItems? hs fuel ts).map fun (ns, ts) => (n :: ns, ts)
      | none => none
    | ts => some ([], ts)

/-- The entries of an indented table, up to its end. -/
def blockEntries? (hs : TagHandles) :
    (fuel : Nat) → List Token → Option (List (Node × Node) × List Token)
  | 0, _ => none
  | fuel + 1, ts =>
    match ts with
    | .blockEnd :: ts => some ([], ts)
    | .key :: ts =>
      match nodeUnless? hs .blockTable tableStops fuel ts with
      | none => none
      | some (k, ts) =>
        let value := match ts with
          | .value :: ts => nodeUnless? hs .blockTable tableStops fuel ts
          | ts => some (.empty, ts)
        match value with
        | some (v, ts) => (blockEntries? hs fuel ts).map fun (es, ts) => ((k, v) :: es, ts)
        | none => none
    | _ => none

/-- The items of a list in brackets, up to its end. An item with a key is a table of one entry. -/
def flowItems? (hs : TagHandles) (isFirst : Bool) :
    (fuel : Nat) → List Token → Option (List Node × List Token)
  | 0, _ => none
  | fuel + 1, ts =>
    match ts with
    | .flowListEnd :: ts => some ([], ts)
    | ts =>
      let start := match isFirst, ts with
        | true, ts => some ts
        | false, .comma :: ts => some ts
        | false, _ => none
      match start with
      | none => none
      | some (.flowListEnd :: ts) => some ([], ts)
      | some (.key :: ts) =>
        let pair := match ts with
          | .value :: ts => some (Node.empty, ts)
          | .comma :: ts => some (Node.empty, ts)
          | .flowListEnd :: ts => some (Node.empty, ts)
          | ts => node? hs .flow fuel ts
        match pair with
        | none => none
        | some (k, ts) =>
          let value := match ts with
            | .value :: ts => nodeUnless? hs .flow [.comma, .flowListEnd] fuel ts
            | ts => some (.empty, ts)
          match value with
          | some (v, ts) =>
            (flowItems? hs false fuel ts).map fun (ns, ts) => (.table {} [(k, v)] :: ns, ts)
          | none => none
      | some ts =>
        match node? hs .flow fuel ts with
        | some (n, ts) => (flowItems? hs false fuel ts).map fun (ns, ts) => (n :: ns, ts)
        | none => none

/-- The entries of a table in brackets, up to its end. A key may have no value. -/
def flowEntries? (hs : TagHandles) (isFirst : Bool) :
    (fuel : Nat) → List Token → Option (List (Node × Node) × List Token)
  | 0, _ => none
  | fuel + 1, ts =>
    match ts with
    | .flowTableEnd :: ts => some ([], ts)
    | ts =>
      let start := match isFirst, ts with
        | true, ts => some ts
        | false, .comma :: ts => some ts
        | false, _ => none
      match start with
      | none => none
      | some (.flowTableEnd :: ts) => some ([], ts)
      | some (.key :: ts) =>
        match nodeUnless? hs .flow [.value, .comma, .flowTableEnd] fuel ts with
        | none => none
        | some (k, ts) =>
          let value := match ts with
            | .value :: ts => nodeUnless? hs .flow [.comma, .flowTableEnd] fuel ts
            | ts => some (.empty, ts)
          match value with
          | some (v, ts) => (flowEntries? hs false fuel ts).map fun (es, ts) => ((k, v) :: es, ts)
          | none => none
      | some ts =>
        match node? hs .flow fuel ts with
        | some (k, ts) =>
          (flowEntries? hs false fuel ts).map fun (es, ts) => ((k, Node.empty) :: es, ts)
        | none => none

end

/-- The directives in front of a document: at most one version, and every handle once. -/
def directives? (version : Bool) (hs : TagHandles) : List Token → Option (TagHandles × List Token)
  | .version major minor :: ts =>
    if version ∨ major ≠ 1 ∨ (minor ≠ 1 ∧ minor ≠ 2) then none else directives? true hs ts
  | .tagHandle h m :: ts =>
    if h ∈ hs.map Prod.fst then none else directives? version ((h, m) :: hs) ts
  | ts => some (hs ++ standardHandles, ts)

/-- Is a token one of those with which a document starts that is announced? -/
def Token.announces : Token → Bool
  | .version .. => true
  | .tagHandle .. => true
  | .documentStart => true
  | _ => false

/-- Enough steps for all recursions over so many tokens. -/
def enough (ts : List Token) : Nat := 3 * ts.length + 3

/-- A document that is announced, by directives or a mark. -/
def announced? (ts : List Token) : Option (Node × List Token) :=
  match directives? false [] ts with
  | some (hs, .documentStart :: ts) =>
    match ts with
    | [] => some (.empty, ts)
    | t :: _ =>
      if t.announces ∨ t = .documentEnd then some (.empty, ts) else node? hs .block (enough ts) ts
  | _ => none

/-- The documents of a stream. Only the first need not be announced. -/
def documents? : (fuel : Nat) → (isFirst : Bool) → List Token → Option (List Node)
  | 0, _, _ => none
  | fuel + 1, isFirst, ts =>
    match if isFirst then ts else ts.dropWhile (· = .documentEnd) with
    | [] => some []
    | t :: ts =>
      let read := if isFirst && !t.announces then node? standardHandles .block (enough (t :: ts)) (t :: ts)
        else announced? (t :: ts)
      match read with
      | some (n, ts) => (documents? fuel false ts).map (n :: ·)
      | none => none

/-- The documents of a text. -/
def readNodes? (text : List Char) : Option (List Node) :=
  (tokens? text).bind fun ts => documents? (ts.length + 1) true ts

end ArchLint.Yaml
