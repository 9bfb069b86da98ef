import ArchLint.Yaml.Scalar

/-!
The tokens of a YAML text. Indentation is turned into tokens for the start and end of collections.
That a scalar was a key shows only at the colon after it, so a place is kept free in front of
everything that can still be one.
-/

namespace ArchLint.Yaml

inductive Token where
  | version (major minor : Nat)
  | tagHandle (handle meaning : List Char)
  | documentStart
  | documentEnd
  | blockList
  | blockTable
  | blockEnd
  | flowList
  | flowListEnd
  | flowTable
  | flowTableEnd
  | item
  | comma
  | key
  | value
  | alias (name : List Char)
  | anchor (name : List Char)
  | tag (handle suffix : List Char)
  | scalar (isPlain : Bool) (text : List Char)
  deriving DecidableEq, Repr

/-- Something that a colon may still make a key. -/
structure PossibleKey where
  /-- The place that is kept free. -/
  slot : Nat
  /-- Must it be a key? -/
  required : Bool
  index : Nat
  line : Nat
  column : Nat
  deriving Repr

structure Scanner where
  cursor : Cursor
  /-- The tokens so far; every entry is a token or a place kept free. -/
  entries : Array (List Token) := #[]
  /-- The column of the innermost block collection. -/
  indent : Option Nat := none
  /-- The columns of the collections around it. -/
  outer : List (Option Nat) := []
  /-- The possible key of every level of brackets, the innermost first. -/
  keys : List (Option PossibleKey) := [none]
  /-- May a key start here? -/
  keyAllowed : Bool := true

namespace Scanner

/-- Within brackets indentation has no meaning. -/
def inFlow (s : Scanner) : Bool := 1 < s.keys.length

def push (s : Scanner) (t : Token) : Scanner := { s with entries := s.entries.push [t] }

def skip (s : Scanner) (n : Nat) : Scanner := { s with cursor := s.cursor.skip n }

def allowKey (s : Scanner) (allowed : Bool) : Scanner := { s with keyAllowed := allowed }

/-- Drops the possible key of this level, unless it had to be one. -/
def dropKey? (s : Scanner) : Option Scanner :=
  match s.keys with
  | some k :: keys => if k.required then none else some { s with keys := none :: keys }
  | _ => some s

/-- Drops the keys that are on an earlier line or too far back. -/
def dropStale? (s : Scanner) : Option Scanner :=
  let fresh? : Option PossibleKey → Option (Option PossibleKey)
    | none => some none
    | some k =>
      if k.line < s.cursor.line ∨ k.index + 1024 < s.cursor.index then
        if k.required then none else some none
      else some (some k)
  (s.keys.mapM fresh?).map fun keys => { s with keys }

/-- Keeps a place free for a key that may start here. -/
def noteKey? (s : Scanner) : Option Scanner :=
  if s.keyAllowed then
    let key : PossibleKey := {
      slot := s.entries.size
      required := !s.inFlow && s.indent = some s.cursor.column
      index := s.cursor.index
      line := s.cursor.line
      column := s.cursor.column }
    s.dropKey?.map fun s => { s with entries := s.entries.push [], keys := some key :: s.keys.tail }
  else some s

/-- Is a column further in than the innermost collection? -/
def isDeeper (s : Scanner) (column : Nat) : Bool :=
  match s.indent with
  | some i => i < column
  | none => true

/-- Enters a collection at a column. -/
def enter (s : Scanner) (column : Nat) : Scanner :=
  { s with indent := some column, outer := s.indent :: s.outer }

/-- Starts a block collection if the column is deeper than the last one. -/
def roll (s : Scanner) (start : Token) : Scanner :=
  if !s.inFlow && s.isDeeper s.cursor.column then (s.enter s.cursor.column).push start else s

/-- Ends the block collections that are deeper than a column; without one, all of them. -/
def unrollFrom (column : Option Nat) : List (Option Nat) → Scanner → Scanner
  | [], s => s
  | o :: outer, s =>
    if s.indent.any fun i => column.all (· < i) then
      unrollFrom column outer { s.push .blockEnd with indent := o, outer }
    else s

def unroll (s : Scanner) (column : Option Nat) : Scanner :=
  if s.inFlow then s else unrollFrom column s.outer s

/-- Blanks, comments and line breaks before the next token. A tab may not stand where a key may. -/
def toNext : (fuel : Nat) → Scanner → Scanner
  | 0, s => s
  | fuel + 1, s =>
    let c := if s.cursor.index = 0 ∧ s.cursor.isAt ['\ufeff'] then s.cursor.skip 1 else s.cursor
    let tabs := s.inFlow || !s.keyAllowed
    let c := (c.skipWhile fun x => x = ' ' || (tabs && x = '\t')).skipComment
    match c.break? with
    | some (_, c) => toNext fuel { s with cursor := c, keyAllowed := s.keyAllowed || !s.inFlow }
    | none => { s with cursor := c }

/-! ### Tokens of one kind -/

def documentMark? (s : Scanner) (t : Token) : Option Scanner :=
  (s.unroll none).dropKey?.map fun s => ((s.allowKey false).skip 3).push t

def openFlow? (s : Scanner) (t : Token) : Option Scanner :=
  s.noteKey?.map fun s => (({ s with keys := none :: s.keys }.allowKey true).skip 1).push t

def closeFlow? (s : Scanner) (t : Token) : Option Scanner :=
  s.dropKey?.map fun s =>
    (({ s with keys := if s.inFlow then s.keys.tail else s.keys }.allowKey false).skip 1).push t

def comma? (s : Scanner) : Option Scanner :=
  s.dropKey?.map fun s => ((s.allowKey true).skip 1).push .comma

def item? (s : Scanner) : Option Scanner :=
  if s.inFlow || s.keyAllowed then
    (s.roll .blockList).dropKey?.map fun s => ((s.allowKey true).skip 1).push .item
  else none

def key? (s : Scanner) : Option Scanner :=
  if s.inFlow || s.keyAllowed then
    (s.roll .blockTable).dropKey?.map fun s => ((s.allowKey !s.inFlow).skip 1).push .key
  else none

/-- Makes the possible key of this level a key; without one, a value follows a key that was
announced before. -/
def value? (s : Scanner) : Option Scanner :=
  match s.keys with
  | some k :: keys =>
    let opens := !s.inFlow && s.isDeeper k.column
    let found := if opens then [.blockTable, .key] else [.key]
    let entries := s.entries.setIfInBounds k.slot found
    let s := if opens then s.enter k.column else s
    some ((({ s with entries, keys := none :: keys }.allowKey false).skip 1).push .value)
  | _ =>
    if s.inFlow || s.keyAllowed then
      some ((((s.roll .blockTable).allowKey !s.inFlow).skip 1).push .value)
    else none

/-- The name of an anchor or alias. -/
def name? (s : Scanner) (token : List Char → Token) : Option Scanner :=
  s.noteKey?.bind fun s =>
    let name := (s.cursor.rest.drop 1).takeWhile isNameChar
    let s := s.skip (name.length + 1)
    if name.isEmpty then none
    else if endsWord s.cursor.rest || s.cursor.isAt ['?', ':', ',', ']', '\x7d', '%', '@', '\x60'] then
      some ((s.allowKey false).push (token name))
    else none

/-- Adds a scalar that was read. -/
def scalar? (s : Scanner) (isPlain : Bool) (r : Option ScannedScalar) : Option Scanner :=
  r.map fun r =>
    { s with cursor := r.next, keyAllowed := s.keyAllowed || r.broken }.push (.scalar isPlain r.text)

def block? (s : Scanner) (isLiteral : Bool) : Option Scanner :=
  s.dropKey?.bind fun s =>
    (s.allowKey true).scalar? false (scanBlock isLiteral s.indent (s.cursor.skip 1))

def quoted? (s : Scanner) (quote : Char) : Option Scanner :=
  s.noteKey?.bind fun s =>
    (s.allowKey false).scalar? false
      (scanQuoted quote (s.cursor.rest.length + 1) [] (s.cursor.skip 1))

def plain? (s : Scanner) : Option Scanner :=
  s.noteKey?.bind fun s =>
    let least := (s.indent.map (· + 1)).getD 0
    (s.allowKey false).scalar? true
      (scanPlain s.inFlow least (s.cursor.rest.length + 1) [] {} s.cursor)

end Scanner

/-! ### Tags and directives -/

/-- Characters of a tag; within angle brackets there are a few more. -/
def isTagChar (isVerbatim : Bool) (c : Char) : Bool :=
  isNameChar c || c ∈ [';', '/', '?', ':', '@', '&', '=', '+', '$', '.', '%', '!', '~', '*', '\'',
    '(', ')'] || (isVerbatim && c ∈ [',', '[', ']'])

/-- The bytes that percent signs announce, at the head of a text. -/
def percentBytes : (fuel : Nat) → List Char → List UInt8 × List Char
  | 0, cs => ([], cs)
  | fuel + 1, cs =>
    match cs with
    | '%' :: a :: b :: rest =>
      match hexNumber? [a, b] with
      | some n =>
        let (more, rest) := percentBytes fuel rest
        (n.toUInt8 :: more, rest)
      | none => ([], cs)
    | _ => ([], cs)

/-- A tag with its percent signs resolved. -/
def unescapeTag? : (fuel : Nat) → List Char → Option (List Char)
  | 0, _ => some []
  | fuel + 1, cs =>
    match cs with
    | [] => some []
    | '%' :: _ =>
      let (bytes, rest) := percentBytes cs.length cs
      match bytes.isEmpty, String.fromUTF8? ⟨bytes.toArray⟩ with
      | false, some text => (unescapeTag? fuel rest).map (text.toList ++ ·)
      | _, _ => none
    | c :: cs => (unescapeTag? fuel cs).map (c :: ·)

/-- The handle of a tag: an exclamation mark, or a name between two of them. -/
def handleOf (cs : List Char) : List Char :=
  match cs with
  | '!' :: cs =>
    let name := cs.takeWhile isNameChar
    match cs.drop name.length with
    | '!' :: _ => '!' :: name ++ ['!']
    | _ => ['!']
  | _ => []

/-- Handle and suffix of a tag, and how many characters it takes. -/
def tagParts? (cs : List Char) : Option (List Char × List Char × Nat) :=
  match cs with
  | '!' :: '<' :: cs =>
    let uri := cs.takeWhile (isTagChar true)
    match uri.isEmpty, cs.drop uri.length with
    | false, '>' :: _ => (unescapeTag? (uri.length + 1) uri).map fun uri => ([], uri, uri.length + 3)
    | _, _ => none
  | cs =>
    let handle := handleOf cs
    let suffix := (cs.drop handle.length).takeWhile (isTagChar false)
    let size := handle.length + suffix.length
    (unescapeTag? (suffix.length + 1) suffix).bind fun suffix =>
      if handle.length < 2 then
        if suffix.isEmpty then some ([], ['!'], size) else some (['!'], suffix, size)
      else if suffix.isEmpty then none
      else some (handle, suffix, size)

namespace Scanner

def tag? (s : Scanner) : Option Scanner :=
  s.noteKey?.bind fun s =>
    (tagParts? s.cursor.rest).bind fun (handle, suffix, size) =>
      let s := s.skip size
      if endsWord s.cursor.rest || (s.inFlow && s.cursor.isAt [',']) then
        some ((s.allowKey false).push (.tag handle suffix))
      else none

/-- The rest of a line that holds nothing more. -/
def endOfDirective? (s : Scanner) : Option Scanner :=
  let c := (s.cursor.skipWhile isBlank).skipComment
  if c.rest.isEmpty then some { s with cursor := c }
  else c.break?.map fun b => { s with cursor := b.2 }

/-- A number of a version has at most nine digits. -/
def versionNumber? (c : Cursor) : Option (Nat × Cursor) :=
  let ds := c.rest.takeWhile Char.isDigit
  if ds.isEmpty ∨ 9 < ds.length then none
  else some (ds.foldl (fun n d => 10 * n + (d.toNat - 48)) 0, c.skip ds.length)

def versionDirective? (s : Scanner) : Option Scanner :=
  match versionNumber? (s.cursor.skipWhile isBlank) with
  | some (major, c) =>
    if c.isAt ['.'] then
      (versionNumber? (c.skip 1)).map fun (minor, c) => { s with cursor := c }.push (.version major minor)
    else none
  | none => none

def tagDirective? (s : Scanner) : Option Scanner :=
  let c := s.cursor.skipWhile isBlank
  let handle := handleOf c.rest
  let c := c.skip handle.length
  if handle.isEmpty ∨ !c.isAt [' ', '\t'] then none
  else
    let c := c.skipWhile isBlank
    let meaning := c.rest.takeWhile (isTagChar true)
    let c := c.skip meaning.length
    if meaning.isEmpty ∨ !endsWord c.rest then none
    else (unescapeTag? (meaning.length + 1) meaning).map fun meaning =>
      { s with cursor := c }.push (.tagHandle handle meaning)

def directive? (s : Scanner) : Option Scanner :=
  (s.unroll none).dropKey?.bind fun s =>
    let s := (s.allowKey false).skip 1
    let name := s.cursor.rest.takeWhile isNameChar
    let s := s.skip name.length
    let read := if !endsWord s.cursor.rest then none
      else if name = "YAML".toList then s.versionDirective?
      else if name = "TAG".toList then s.tagDirective?
      else none
    read.bind endOfDirective?

/-- Characters that start no plain scalar by themselves. -/
def indicators : List Char :=
  ['-', '?', ':', ',', '[', ']', '\x7b', '\x7d', '#', '&', '*', '!', '|', '>', '\'', '"', '%', '@',
    '\x60']

/-- May a plain scalar start here? -/
def startsPlain (s : Scanner) (x : Char) (rest : List Char) : Bool :=
  !(isBlank x || isBreak x || x ∈ indicators) || (x = '-' && !rest.head?.any isBlank) ||
    (!s.inFlow && (x = '?' || x = ':') && !endsWord rest)

/-- The next token, at a place where one starts. -/
def fetch? (s : Scanner) : Option Scanner :=
  match s.cursor.rest with
  | [] => some s
  | x :: rest =>
    if s.cursor.column = 0 && x = '%' then s.directive?
    else if s.cursor.isAtDocumentMark then
      s.documentMark? (if x = '-' then .documentStart else .documentEnd)
    else if x = '[' then s.openFlow? .flowList
    else if x = '\x7b' then s.openFlow? .flowTable
    else if x = ']' then s.closeFlow? .flowListEnd
    else if x = '\x7d' then s.closeFlow? .flowTableEnd
    else if x = ',' then s.comma?
    else if x = '-' && endsWord rest then s.item?
    else if x = '?' && (s.inFlow || endsWord rest) then s.key?
    else if x = ':' && (s.inFlow || endsWord rest) then s.value?
    else if x = '*' then s.name? .alias
    else if x = '&' then s.name? .anchor
    else if x = '!' then s.tag?
    else if x = '|' && !s.inFlow then s.block? true
    else if x = '>' && !s.inFlow then s.block? false
    else if x = '\'' || x = '"' then s.quoted? x
    else if s.startsPlain x rest then s.plain?
    else none

/-- Ends what is open at the end of the text. -/
def finish? (s : Scanner) : Option Scanner := (s.unroll none).dropKey?

/-- All tokens; each takes a character at least. -/
def run? : (fuel : Nat) → Scanner → Option Scanner
  | 0, _ => none
  | fuel + 1, s =>
    (toNext (s.cursor.rest.length + 1) s).dropStale?.bind fun s =>
      let s := s.unroll (some s.cursor.column)
      if s.cursor.rest.isEmpty then s.finish? else s.fetch?.bind (run? fuel)

end Scanner

/-- The tokens of a text. -/
def tokens? (text : List Char) : Option (List Token) :=
  if text.all isAllowed then
    let text := match text with
      | '\ufeff' :: cs => cs
      | cs => cs
    (Scanner.run? (text.length + 1) { cursor := { rest := text } }).map fun s => s.entries.toList.flatten
  else none

end ArchLint.Yaml
