import ArchLint.Pattern.Syntax
import ArchLint.Text.Category
import ArchLint.Text.LetterCase
import ArchLint.Text.WritingSystem

/-!
Reading the notation of patterns. There is no look-around and no back-reference; braces that are
not a complete count, unknown escapes, names and properties, and ranges that run backwards are
refused. Flags hold to the end of the group they stand in and are resolved while reading.
-/

namespace ArchLint.Pattern

/-- Flags in force at a place of the pattern. -/
structure Flags where
  ignoreCase : Bool := false
  multiLine : Bool := false
  dotMatchesNewline : Bool := false
  swapGreed : Bool := false
  unicode : Bool := true
  spaced : Bool := false
  crlf : Bool := false

namespace Flags

/-- Sets the flag that a letter names. -/
def set? (f : Flags) (on : Bool) : Char → Option Flags
  | 'i' => some { f with ignoreCase := on }
  | 'm' => some { f with multiLine := on }
  | 's' => some { f with dotMatchesNewline := on }
  | 'U' => some { f with swapGreed := on }
  | 'u' => some { f with unicode := on }
  | 'x' => some { f with spaced := on }
  | 'R' => some { f with crlf := on }
  | _ => none

end Flags

/-- Drops what does not count in spaced notation: blanks, and comments up to the end of a line. -/
def skipSpacing : (inComment : Bool) → List Char → List Char
  | _, [] => []
  | true, c :: cs => skipSpacing (c ≠ '\n') cs
  | false, c :: cs =>
    if c = '#' then skipSpacing true cs
    else if Property.whiteSpace.contains c then skipSpacing false cs
    else c :: cs

def Flags.skip (f : Flags) (cs : List Char) : List Char :=
  if f.spaced then skipSpacing false cs else cs

def digitSet (f : Flags) : CharSet :=
  if f.unicode then Category.decimalNumber else CharSet.range 48 57

def spaceSet (f : Flags) : CharSet :=
  if f.unicode then Property.whiteSpace else ⟨[(9, 13), (32, 32)]⟩

def wordSet (f : Flags) : CharSet :=
  if f.unicode then Property.word else ⟨[(48, 57), (65, 90), (95, 95), (97, 122)]⟩

/-- Letters that differ from a member in case alone are added when case is ignored. -/
def foldCase (f : Flags) (s : CharSet) : CharSet :=
  if !f.ignoreCase then s
  else if f.unicode then LetterCase.closure s
  else s.union (CharSet.union
    ⟨((s.inter (CharSet.range 65 90)).ranges.map fun r => (r.1 + 32, r.2 + 32))⟩
    ⟨((s.inter (CharSet.range 97 122)).ranges.map fun r => (r.1 - 32, r.2 - 32))⟩)

/-- Without the wide alphabet a set may hold letters of one byte only. -/
def admitted (f : Flags) (s : CharSet) : Option CharSet :=
  if f.unicode || (s.inter (CharSet.range 128 CharSet.top)).ranges.isEmpty then some s else none

/-- Small letters and digits of a name, without separators and a leading `is`. -/
def looseName (name : List Char) : String :=
  let kept := (name.filter fun c => c.toNat < 128 ∧ c ≠ ' ' ∧ c ≠ '_' ∧ c ≠ '-').map Char.toLower
  match kept with
  | 'i' :: 's' :: rest => if rest = ['c'] then "isc" else String.ofList rest
  | _ => String.ofList kept

def lookupName (table : List (List String × CharSet)) (name : String) : Option CharSet :=
  (table.find? fun entry => name ∈ entry.1).map Prod.snd

/-- General categories, with the three that are no category of the tables. -/
def category? (name : String) : Option CharSet :=
  if name = "any" then some CharSet.full
  else if name = "ascii" then some (CharSet.range 0 127)
  else if name = "assigned" then some Category.unassigned.complement
  else lookupName Category.named name

/-- The set of a property name, or of a property with its value. -/
def property? (text : List Char) : Option CharSet :=
  let byValue (key value : List Char) : Option CharSet :=
    match looseName key with
    | "gc" | "generalcategory" => category? (looseName value)
    | "sc" | "script" | "scx" | "scriptextensions" =>
      lookupName WritingSystem.named (looseName value)
    | _ => none
  match text.span fun c => c ≠ ':' ∧ c ≠ '=' with
  | (name, []) =>
    let name := looseName name
    (if name ∈ ["cf", "sc", "lc"] then none else lookupName Property.named name)
      <|> category? name <|> lookupName WritingSystem.named name
  | (key, _ :: value) =>
    match key.reverse with
    | '!' :: key => (byValue key.reverse value).map CharSet.complement
    | _ => byValue key value

/-- The bracketed classes that have a name. -/
def namedClass? : String → Option (List (Nat × Nat))
  | "alnum" => some [(48, 57), (65, 90), (97, 122)]
  | "alpha" => some [(65, 90), (97, 122)]
  | "ascii" => some [(0, 127)]
  | "blank" => some [(9, 9), (32, 32)]
  | "cntrl" => some [(0, 31), (127, 127)]
  | "digit" => some [(48, 57)]
  | "graph" => some [(33, 126)]
  | "lower" => some [(97, 122)]
  | "print" => some [(32, 126)]
  | "punct" => some [(33, 47), (58, 64), (91, 96), (123, 126)]
  | "space" => some [(9, 13), (32, 32)]
  | "upper" => some [(65, 90)]
  | "word" => some [(48, 57), (65, 90), (95, 95), (97, 122)]
  | "xdigit" => some [(48, 57), (65, 70), (97, 102)]
  | _ => none

/-- What an escape or a plain character stands for. -/
inductive Atom where
  | literal (c : Char)
  | set (s : CharSet)
  | look (l : Look)

def hexValue? (c : Char) : Option Nat :=
  if c.isDigit then some (c.toNat - 48)
  else if 'a' ≤ c ∧ c ≤ 'f' then some (c.toNat - 87)
  else if 'A' ≤ c ∧ c ≤ 'F' then some (c.toNat - 55)
  else none

/-- The character of a code point that is one. -/
def charOf? (n : Nat) : Option Char := if n.isValidChar then some (Char.ofNat n) else none

/-- Hexadecimal digits up to a closing brace. -/
def bracedHex (f : Flags) (value count : Nat) : (fuel : Nat) → List Char → Option (Char × List Char)
  | 0, _ => none
  | fuel + 1, cs =>
    match f.skip cs with
    | '}' :: rest => if count = 0 then none else (charOf? value).map fun c => (c, rest)
    | c :: rest =>
      match hexValue? c with
      | some d => bracedHex f (min (16 * value + d) 0x110000) (count + 1) fuel rest
      | none => none
    | [] => none

/-- A fixed number of hexadecimal digits. -/
def fixedHex (f : Flags) (value : Nat) : (count : Nat) → List Char → Option (Char × List Char)
  | 0, cs => (charOf? value).map fun c => (c, cs)
  | count + 1, cs =>
    match f.skip cs with
    | c :: rest =>
      match hexValue? c with
      | some d => fixedHex f (16 * value + d) count rest
      | none => none
    | [] => none

/-- A character by its number: `\x41`, `\u0041`, `\U00000041` or with braces. -/
def hexEscape? (f : Flags) (count : Nat) (cs : List Char) : Option (Atom × List Char) :=
  let answer := match f.skip cs with
    | '{' :: rest => bracedHex f 0 0 (rest.length + 1) rest
    | cs => fixedHex f 0 count cs
  match answer with
  | some (c, rest) =>
    if !f.unicode ∧ count = 2 ∧ 128 ≤ c.toNat ∧ c.toNat < 256 then none
    else some (.literal c, rest)
  | none => none

/-- A set by the name of a property, in braces or of one letter. -/
def propertyEscape? (f : Flags) (negated : Bool) (cs : List Char) : Option (Atom × List Char) :=
  let found := match f.skip cs with
    | '{' :: rest =>
      match (if f.spaced then rest.filter fun c => !Property.whiteSpace.contains c else rest).span
          (· ≠ '}') with
      | (name, _ :: _) =>
        (property? name).map fun s => (s, (rest.dropWhile (· ≠ '}')).drop 1)
      | (_, []) => none
    | '\\' :: _ => none
    | c :: rest => (property? [c]).map fun s => (s, rest)
    | [] => none
  match found with
  | some (s, rest) =>
    if !f.unicode then none
    else
      let s := foldCase f s
      some (.set (if negated then s.complement else s), rest)
  | none => none

/-- The word tests with a name in braces. -/
def namedLook? (word : CharSet) : List Char → Option Look
  | ['s', 't', 'a', 'r', 't'] => some (.wordStart word)
  | ['e', 'n', 'd'] => some (.wordEnd word)
  | ['s', 't', 'a', 'r', 't', '-', 'h', 'a', 'l', 'f'] => some (.noWordBefore word)
  | ['e', 'n', 'd', '-', 'h', 'a', 'l', 'f'] => some (.noWordAfter word)
  | _ => none

/-- What follows a word boundary: a name in braces makes it a narrower test. -/
def boundaryEscape? (f : Flags) (cs : List Char) : Option (Atom × List Char) :=
  let word := wordSet f
  let inName (c : Char) : Bool := c.isAlpha || c = '-'
  match cs with
  | '{' :: rest =>
    let rest := f.skip rest
    match rest with
    | [] => none
    | c :: _ =>
      if !inName c then some (.look (.boundary word), cs)
      else
        let rest := if f.spaced then rest.filter fun c => !Property.whiteSpace.contains c else rest
        match rest.span inName with
        | (name, '}' :: rest) => (namedLook? word name).map fun l => (.look l, rest)
        | _ => none
  | _ => some (.look (.boundary word), cs)

/-- What follows a backslash. -/
def escape? (f : Flags) : List Char → Option (Atom × List Char)
  | [] => none
  | c :: cs =>
    let negatable (upper : Bool) (s : CharSet) : Option (Atom × List Char) :=
      (admitted f (if upper then s.complement else s)).map fun s => (.set s, cs)
    match c with
    | 'x' => hexEscape? f 2 cs
    | 'u' => hexEscape? f 4 cs
    | 'U' => hexEscape? f 8 cs
    | 'p' => propertyEscape? f false cs
    | 'P' => propertyEscape? f true cs
    | 'd' => negatable false (digitSet f)
    | 'D' => negatable true (digitSet f)
    | 's' => negatable false (spaceSet f)
    | 'S' => negatable true (spaceSet f)
    | 'w' => negatable false (wordSet f)
    | 'W' => negatable true (wordSet f)
    | 'a' => some (.literal '\x07', cs)
    | 'f' => some (.literal '\x0c', cs)
    | 't' => some (.literal '\t', cs)
    | 'n' => some (.literal '\n', cs)
    | 'r' => some (.literal '\r', cs)
    | 'v' => some (.literal '\x0b', cs)
    | 'A' => some (.look .textStart, cs)
    | 'z' => some (.look .textEnd, cs)
    | 'b' => boundaryEscape? f cs
    | 'B' => some (.look (.noBoundary (wordSet f)), cs)
    | '<' => some (.look (.wordStart (wordSet f)), cs)
    | '>' => some (.look (.wordEnd (wordSet f)), cs)
    | _ => if c.toNat < 128 ∧ !c.isAlphanum then some (.literal c, cs) else none

/-- Set operations of bracketed classes; all bind alike and to the left. -/
inductive SetOp where
  | inter
  | diff
  | symmDiff

def SetOp.apply : SetOp → CharSet → CharSet → CharSet
  | inter, a, b => a.inter b
  | diff, a, b => a.diff b
  | symmDiff, a, b => a.symmDiff b

/-- Joins the operand just read to what stands before it. -/
def closeOperand (f : Flags) (left : Option (SetOp × CharSet)) (s : CharSet) : CharSet :=
  match left with
  | none => s
  | some (op, l) => op.apply (foldCase f l) (foldCase f s)

/-- One member of a class. -/
def classItem? (f : Flags) : List Char → Option (Atom × List Char)
  | [] => none
  | '\\' :: cs => escape? f cs
  | c :: cs => some (.literal c, cs)

/-- A member or a range of members. -/
def classRange? (f : Flags) (cs : List Char) : Option (CharSet × List Char) :=
  match classItem? f cs with
  | none => none
  | some (first, rest) =>
    let rest := f.skip rest
    let single : Option (CharSet × List Char) := match first with
      | .literal c => some (CharSet.singleton c, rest)
      | .set s => some (s, rest)
      | .look _ => none
    match rest with
    | [] => none
    | '-' :: more =>
      let more := f.skip more
      match more with
      | [] => none
      | ']' :: _ | '-' :: _ => single
      | _ =>
        match first, classItem? f more with
        | .literal a, some (.literal b, rest) =>
          if a.toNat ≤ b.toNat then some (CharSet.range a.toNat b.toNat, rest) else none
        | _, _ => none
    | _ => single

/-- A named class between `[:` and `:]`, where the text is one. -/
def posixClass? (cs : List Char) : Option (CharSet × List Char) :=
  match cs with
  | '[' :: ':' :: rest =>
    let (negated, rest) := match rest with
      | '^' :: rest => (true, rest)
      | _ => (false, rest)
    match rest.span (· ≠ ':') with
    | (name, ':' :: ']' :: rest) =>
      (namedClass? (String.ofList name)).map fun ranges =>
        (if negated then (CharSet.mk ranges).complement else ⟨ranges⟩, rest)
    | _ => none
  | _ => none

/-- Hyphens at the head of a class are members. -/
def headHyphens (f : Flags) (s : CharSet) : (fuel : Nat) → List Char → CharSet × List Char
  | 0, cs => (s, cs)
  | fuel + 1, '-' :: cs => headHyphens f (s.union (CharSet.singleton '-')) fuel (f.skip cs)
  | _, cs => (s, cs)

mutual

/-- A class after its opening bracket: its set, its nesting, and the rest of the text. -/
def bracketed? (f : Flags) : (fuel : Nat) → List Char → Option (CharSet × Nat × List Char)
  | 0, _ => none
  | fuel + 1, cs =>
    let cs := f.skip cs
    let (negated, cs) := match cs with
      | '^' :: cs => (true, f.skip cs)
      | _ => (false, cs)
    let (s, cs) := headHyphens f CharSet.empty cs.length cs
    let (s, cs) := match s.ranges, cs with
      | [], ']' :: cs => (CharSet.singleton ']', f.skip cs)
      | _, _ => (s, cs)
    match classBody? f none s 1 fuel cs with
    | some (s, depth, rest) =>
      let s := foldCase f s
      (admitted f (if negated then s.complement else s)).map fun s => (s, depth, rest)
    | none => none

/-- Members up to the closing bracket. -/
def classBody? (f : Flags) (left : Option (SetOp × CharSet)) (s : CharSet) (depth : Nat) :
    (fuel : Nat) → List Char → Option (CharSet × Nat × List Char)
  | 0, _ => none
  | fuel + 1, cs =>
    match f.skip cs with
    | [] => none
    | ']' :: rest => some (closeOperand f left s, depth, rest)
    | '&' :: '&' :: rest =>
      classBody? f (some (.inter, closeOperand f left s)) CharSet.empty depth fuel rest
    | '-' :: '-' :: rest =>
      classBody? f (some (.diff, closeOperand f left s)) CharSet.empty depth fuel rest
    | '~' :: '~' :: rest =>
      classBody? f (some (.symmDiff, closeOperand f left s)) CharSet.empty depth fuel rest
    | '[' :: rest =>
      match posixClass? ('[' :: rest) with
      | some (t, rest) => classBody? f left (s.union t) depth fuel rest
      | none =>
        match bracketed? f fuel rest with
        | some (t, inner, rest) => classBody? f left (s.union t) (max depth (inner + 1)) fuel rest
        | none => none
    | cs =>
      match classRange? f cs with
      | some (t, rest) => classBody? f left (s.union t) depth fuel rest
      | none => none

end

/-- A node with the depth of the notation it was read from. -/
structure Term where
  node : Node
  depth : Nat := 0

/-- An open group: what precedes it, the earlier branches of that level, and what it captures. -/
structure OpenGroup where
  terms : List (Option Term)
  branches : List Term
  index : Option Nat
  flags : Flags

/-- How far a pattern is read. Terms stand latest first; flags among them count as `none`. -/
structure Progress where
  flags : Flags := {}
  terms : List (Option Term) := []
  branches : List Term := []
  stack : List OpenGroup := []
  captures : Nat := 0
  names : List String := []

namespace Progress

/-- The terms of the current branch as one. -/
def branch (p : Progress) : Term :=
  match p.terms with
  | [] => { node := .empty }
  | [t] => t.getD { node := .empty }
  | ts =>
    let present := (ts.filterMap id).reverse
    { node := Node.sequence (present.map Term.node),
      depth := (present.map Term.depth).foldl max 0 + 1 }

/-- All branches of the current level as one. -/
def whole (p : Progress) : Term :=
  match p.branches with
  | [] => p.branch
  | bs =>
    let all := (p.branch :: bs).reverse
    { node := Node.oneOf (all.map Term.node), depth := (all.map Term.depth).foldl max 0 + 1 }

def push (p : Progress) (t : Term) : Progress := { p with terms := some t :: p.terms }

def openGroup (p : Progress) (index : Option Nat) (inner : Flags) : Progress :=
  { p with
    flags := inner, terms := [], branches := [],
    stack := ⟨p.terms, p.branches, index, p.flags⟩ :: p.stack }

/-- Closes the innermost group. -/
def closeGroup? (p : Progress) : Option Progress :=
  match p.stack with
  | [] => none
  | g :: stack =>
    let t := p.whole
    let node := match g.index with
      | some i => Node.group i t.node
      | none => t.node
    some { p with
      flags := g.flags, stack, branches := g.branches,
      terms := some { node, depth := t.depth + 1 } :: g.terms }

/-- Repeats the latest term. -/
def repeatLast? (p : Progress) (least : Nat) (most : Option Nat) (lazy : Bool) : Option Progress :=
  match p.terms with
  | some t :: terms =>
    let node := Node.repeated least most (lazy = p.flags.swapGreed) t.node
    some { p with terms := some { node, depth := t.depth + 1 } :: terms }
  | _ => none

end Progress

/-- Flags up to a colon or a closing parenthesis; whether any were given, and the flags. -/
def readFlags? (f : Flags) (on : Bool) (seen : List Char) (dangling : Bool) :
    List Char → Option (Flags × Bool × List Char)
  | [] => none
  | c :: cs =>
    if c = ':' ∨ c = ')' then if dangling then none else some (f, !seen.isEmpty, c :: cs)
    else if c ∈ seen then none
    else if c = '-' then readFlags? f false (c :: seen) true cs
    else (f.set? on c).bind fun f => readFlags? f on (c :: seen) false cs

/-- The name of a group: a letter or an underscore, then also digits, dots and brackets. -/
def isGroupName (name : List Char) : Bool :=
  match name with
  | [] => false
  | c :: cs =>
    (c = '_' || Property.alphabetic.contains c) &&
      cs.all fun c => c ∈ ['_', '.', '[', ']'] || Property.alphabetic.contains c ||
        Category.number.contains c

/-- A group with a name up to the closing angle. -/
def namedGroup? (p : Progress) (cs : List Char) : Option (Progress × List Char) :=
  match cs.span (· ≠ '>') with
  | (name, _ :: rest) =>
    let text := String.ofList name
    if isGroupName name ∧ text ∉ p.names then
      let p := { p with captures := p.captures + 1, names := text :: p.names }
      some (p.openGroup (some p.captures) p.flags, rest)
    else none
  | _ => none

/-- What follows an opening parenthesis. -/
def group? (p : Progress) (cs : List Char) : Option (Progress × List Char) :=
  match p.flags.skip cs with
  | '?' :: '=' :: _ | '?' :: '!' :: _ | '?' :: '<' :: '=' :: _ | '?' :: '<' :: '!' :: _ => none
  | '?' :: 'P' :: '<' :: rest | '?' :: '<' :: rest => namedGroup? p rest
  | '?' :: rest =>
    match readFlags? p.flags true [] false rest with
    | some (f, given, ')' :: rest) =>
      if given then some ({ p with flags := f, terms := none :: p.terms }, rest) else none
    | some (f, _, ':' :: rest) => some (p.openGroup none f, rest)
    | _ => none
  | rest =>
    let p := { p with captures := p.captures + 1 }
    some (p.openGroup (some p.captures) p.flags, rest)

/-- A question mark right after a repetition makes it prefer fewer. -/
def lazyMark : List Char → Bool × List Char
  | '?' :: cs => (true, cs)
  | cs => (false, cs)

/-- The digits of a count, blanks around them being skipped. -/
def readCount (f : Flags) (cs : List Char) : Option (Option Nat × List Char) :=
  let blank := Property.whiteSpace.contains
  let cs := cs.dropWhile blank
  let ds := if f.spaced then
      (cs.takeWhile fun c => c.isDigit || blank c).filter Char.isDigit
    else cs.takeWhile Char.isDigit
  let rest := if f.spaced then cs.dropWhile fun c => c.isDigit || blank c
    else (cs.dropWhile Char.isDigit).dropWhile blank
  let n := ds.foldl (fun n c => 10 * n + (c.toNat - 48)) 0
  if ds.isEmpty then some (none, f.skip rest)
  else if n < Nat.pow 2 32 then some (some n, f.skip rest) else none

/-- A count in braces after its opening brace. -/
def counted? (p : Progress) (cs : List Char) : Option (Progress × List Char) := do
  let (least, rest) ← readCount p.flags (p.flags.skip cs)
  let least ← least
  let (most, rest) ← match rest with
    | ',' :: rest =>
      match p.flags.skip rest with
      | '}' :: rest => some (none, '}' :: rest)
      | rest => do
        let (most, rest) ← readCount p.flags rest
        let most ← most
        if least ≤ most then some (some most, rest) else none
    | rest => some (some least, rest)
  match rest with
  | '}' :: rest =>
    let (lazy, rest) := lazyMark (p.flags.skip rest)
    (p.repeatLast? least most lazy).map fun p => (p, rest)
  | _ => none

/-- A repetition without a count. -/
def uncounted? (p : Progress) (least : Nat) (most : Option Nat) (cs : List Char) :
    Option (Progress × List Char) :=
  let (lazy, rest) := lazyMark cs
  (p.repeatLast? least most lazy).map fun p => (p, rest)

/-- The node of a literal character under the flags. -/
def literalNode (f : Flags) (c : Char) : Node :=
  if f.unicode ∨ c.toNat < 128 then .char (foldCase f (CharSet.singleton c))
  else .char (CharSet.singleton c)

def atomNode (f : Flags) : Atom → Node
  | .literal c => literalNode f c
  | .set s => .char s
  | .look l => .look l

/-- Any character but the end of a line, unless the dot matches that too. -/
def dotSet (f : Flags) : CharSet :=
  if f.dotMatchesNewline then CharSet.full
  else if f.crlf then CharSet.complement ⟨[(10, 10), (13, 13)]⟩
  else CharSet.complement ⟨[(10, 10)]⟩

/-- Reads one term, mark or operator. -/
def readStep? (p : Progress) : List Char → Option (Progress × List Char)
  | [] => none
  | c :: cs =>
    let f := p.flags
    match c with
    | '(' => group? p cs
    | ')' => p.closeGroup?.map fun p => (p, cs)
    | '|' => some ({ p with branches := p.branch :: p.branches, terms := [] }, cs)
    | '[' =>
      (bracketed? f (2 * cs.length + 2) cs).map fun (s, depth, rest) =>
        (p.push { node := .char s, depth }, rest)
    | '?' => uncounted? p 0 (some 1) cs
    | '*' => uncounted? p 0 none cs
    | '+' => uncounted? p 1 none cs
    | '{' => counted? p cs
    | '.' => (admitted f (dotSet f)).map fun s => (p.push { node := .char s }, cs)
    | '^' =>
      let l := if f.multiLine then Look.lineStart f.crlf else .textStart
      some (p.push { node := .look l }, cs)
    | '$' =>
      let l := if f.multiLine then Look.lineEnd f.crlf else .textEnd
      some (p.push { node := .look l }, cs)
    | '\\' => (escape? f cs).map fun (a, rest) => (p.push { node := atomNode f a }, rest)
    | _ => some (p.push { node := literalNode f c }, cs)

/-- Reads terms to the end; every step consumes a character. -/
def readAll? : (fuel : Nat) → Progress → List Char → Option Progress
  | 0, _, _ => none
  | fuel + 1, p, cs =>
    match p.flags.skip cs with
    | [] => some p
    | cs =>
      match readStep? p cs with
      | some (p, rest) => readAll? fuel p rest
      | none => none

/-- The deepest nesting of groups, repetitions, sequences and choices that is accepted. -/
def nestingLimit : Nat := 250

/-- The most room a compiled pattern may take. -/
def roomLimit : Nat := 10 * Nat.pow 2 20

/-- The node that a text denotes, if it is a pattern. -/
def Node.ofText? (text : String) : Option Node :=
  match readAll? (text.length + 1) {} text.toList with
  | some p =>
    let t := p.whole
    if p.stack.isEmpty ∧ t.depth ≤ nestingLimit ∧ t.node.room ≤ roomLimit then some t.node else none
  | none => none

end ArchLint.Pattern
