import ArchLint.Yaml.Cursor

/-!
Scalars of a YAML text: plain, quoted, and blocks of lines. A single line break between words counts
as a blank, and more of them as one less, except in a block that keeps its lines.
-/

namespace ArchLint.Yaml

/-! ### Gaps between words -/

/-- Blanks and line breaks between two words. Blanks count only before a line break. -/
structure Gap where
  /-- Blanks, the latest first. -/
  blanks : List Char := []
  /-- The first line break. -/
  first : Option Char := none
  /-- Further line breaks, the latest first. -/
  others : List Char := []
  broken : Bool := false
  deriving Repr

namespace Gap

/-- What a gap contributes to the text, latest first. -/
def folded (g : Gap) : List Char :=
  if !g.broken then g.blanks
  else
    match g.first with
    | some '\n' => if g.others.isEmpty then [' '] else g.others
    | some b => g.others ++ [b]
    | none => g.others

/-- A gap that starts after a line break that does not count. -/
def afterEscapedBreak : Gap := { broken := true }

def addBlank (g : Gap) (b : Char) : Gap :=
  if g.broken then g else { g with blanks := b :: g.blanks }

def addBreak (g : Gap) (b : Char) : Gap :=
  if g.broken then { g with others := b :: g.others } else { first := some b, broken := true }

end Gap

/-- Blanks and line breaks. A tab may not stand before the least column of a further line. -/
def scanGap (least : Nat) : (fuel : Nat) → Gap → Cursor → Option (Gap × Cursor)
  | 0, g, c => some (g, c)
  | fuel + 1, g, c =>
    match c.break? with
    | some (b, c) => scanGap least fuel (g.addBreak b) c
    | none =>
      match c.head? with
      | some ' ' => scanGap least fuel (g.addBlank ' ') (c.skip 1)
      | some '\t' =>
        if g.broken ∧ c.column < least then none
        else scanGap least fuel (g.addBlank '\t') (c.skip 1)
      | _ => some (g, c)

/-! ### Plain scalars -/

/-- The length of the plain word at the head of a text. Within brackets a colon may not stand right
before some other marks. -/
def plainWord? (flow : Bool) : List Char → Option Nat
  | [] => some 0
  | c :: cs =>
    if isBlank c ∨ isBreak c then some 0
    else if flow ∧ c = ':' ∧ cs.head?.any (· ∈ [',', '?', '[', ']', '\x7b', '\x7d']) then none
    else if c = ':' ∧ endsWord cs then some 0
    else if flow ∧ c ∈ [',', '[', ']', '\x7b', '\x7d'] then some 0
    else (plainWord? flow cs).map (· + 1)

/-- A scalar as it was read, whether it ends after a line break, and the place behind it. -/
structure ScannedScalar where
  text : List Char
  broken : Bool := false
  next : Cursor

/-- A plain scalar, whose further lines are indented by `least` at least. -/
def scanPlain (flow : Bool) (least : Nat) :
    (fuel : Nat) → (text : List Char) → Gap → Cursor → Option ScannedScalar
  | 0, text, g, c => some { text := text.reverse, broken := g.broken, next := c }
  | fuel + 1, text, g, c =>
    let finish := fun (text : List Char) (g : Gap) (c : Cursor) =>
      some { text := text.reverse, broken := g.broken, next := c }
    if c.isAtDocumentMark || c.isAt ['#'] then finish text g c
    else
      match plainWord? flow c.rest with
      | none => none
      | some 0 => finish text g c
      | some n =>
        let text := (c.rest.take n).reverse ++ (g.folded ++ text)
        let c := c.skip n
        if !endsWord c.rest || c.rest.isEmpty then finish text {} c
        else
          match scanGap least (c.rest.length + 1) {} c with
          | none => none
          | some (g, c) =>
            if !flow && c.column < least then finish text g c
            else scanPlain flow least fuel text g c

/-! ### Quoted scalars -/

def hexDigit? (c : Char) : Option Nat :=
  if c.isDigit then some (c.toNat - 48)
  else if 'a' ≤ c ∧ c ≤ 'f' then some (c.toNat - 87)
  else if 'A' ≤ c ∧ c ≤ 'F' then some (c.toNat - 55)
  else none

/-- The number that digits in base sixteen spell. -/
def hexNumber? (cs : List Char) : Option Nat :=
  cs.foldl (fun n c => do return 16 * (← n) + (← hexDigit? c)) (some 0)

/-- The character with the number that so many digits spell, and how many characters that takes. -/
def numbered? (digits : Nat) (cs : List Char) : Option (Char × Nat) :=
  let ds := cs.take digits
  if ds.length < digits then none
  else
    match hexNumber? ds with
    | some n => if n.isValidChar then some (Char.ofNat n, digits + 2) else none
    | none => none

/-- The character that is written after a backslash, and how many characters it takes with it. -/
def escape? : List Char → Option (Char × Nat)
  | '0' :: _ => some ('\x00', 2)
  | 'a' :: _ => some ('\x07', 2)
  | 'b' :: _ => some ('\x08', 2)
  | 't' :: _ => some ('\t', 2)
  | '\t' :: _ => some ('\t', 2)
  | 'n' :: _ => some ('\n', 2)
  | 'v' :: _ => some ('\x0b', 2)
  | 'f' :: _ => some ('\x0c', 2)
  | 'r' :: _ => some ('\r', 2)
  | 'e' :: _ => some ('\x1b', 2)
  | ' ' :: _ => some (' ', 2)
  | '"' :: _ => some ('"', 2)
  | '/' :: _ => some ('/', 2)
  | '\\' :: _ => some ('\\', 2)
  | 'N' :: _ => some ('\u0085', 2)
  | '_' :: _ => some ('\u00a0', 2)
  | 'L' :: _ => some ('\u2028', 2)
  | 'P' :: _ => some ('\u2029', 2)
  | 'x' :: cs => numbered? 2 cs
  | 'u' :: cs => numbered? 4 cs
  | 'U' :: cs => numbered? 8 cs
  | _ => none

/-- A scalar after its opening quote. Two single quotes stand for one, and only between double
quotes does a backslash have a meaning. -/
def scanQuoted (quote : Char) : (fuel : Nat) → (text : List Char) → Cursor → Option ScannedScalar
  | 0, _, _ => none
  | fuel + 1, text, c =>
    if c.isAtDocumentMark then none
    else
      match c.rest with
      | [] => none
      | x :: xs =>
        if x = quote then
          if quote = '\'' ∧ xs.head? = some '\'' then scanQuoted quote fuel ('\'' :: text) (c.skip 2)
          else some { text := text.reverse, next := c.skip 1 }
        else if quote = '"' ∧ x = '\\' then
          match (c.skip 1).break? with
          | some (_, c) =>
            match scanGap 0 (c.rest.length + 1) Gap.afterEscapedBreak c with
            | some (g, c) => scanQuoted quote fuel (g.folded ++ text) c
            | none => none
          | none =>
            match escape? xs with
            | some (e, n) => scanQuoted quote fuel (e :: text) (c.skip n)
            | none => none
        else if isBlank x ∨ isBreak x then
          match scanGap 0 (c.rest.length + 1) {} c with
          | some (g, c) => scanQuoted quote fuel (g.folded ++ text) c
          | none => none
        else scanQuoted quote fuel (x :: text) (c.skip 1)

/-! ### Blocks of lines -/

/-- What becomes of the line breaks at the end of a block. -/
inductive Chomping where
  | strip
  | clip
  | keep
  deriving DecidableEq, Repr

/-- The mark for what becomes of a block's end. -/
def chomping? (c : Cursor) : Option Chomping :=
  match c.head? with
  | some '+' => some .keep
  | some '-' => some .strip
  | _ => none

/-- The mark for how much a block is indented. -/
def increment? (c : Cursor) : Option Nat :=
  (c.head?.filter Char.isDigit).map fun d => d.toNat - 48

/-- The marks after the sign of a block, in either order. -/
def blockMarks (c : Cursor) : Chomping × Option Nat × Cursor :=
  match chomping? c, increment? c with
  | some ch, _ =>
    match increment? (c.skip 1) with
    | some n => (ch, some n, c.skip 2)
    | none => (ch, none, c.skip 1)
  | none, some n =>
    match chomping? (c.skip 1) with
    | some ch => (ch, some n, c.skip 2)
    | none => (.clip, some n, c.skip 1)
  | none, none => (.clip, none, c)

/-- Empty lines, up to the column at which lines start. When that is not known yet, it is the
greatest column reached, and no less than `least`. -/
def blockBreaks (least : Nat) : (fuel : Nat) → (indent : Option Nat) → (reached : Nat) →
    (breaks : List Char) → Cursor → Option (Nat × List Char × Cursor)
  | 0, _, _, _, _ => none
  | fuel + 1, indent, reached, breaks, c =>
    let room := match indent with
      | some n => n - c.column
      | none => c.rest.length
    let c := c.skip ((c.rest.take room).takeWhile (· = ' ')).length
    let reached := max reached c.column
    if c.isAt ['\t'] ∧ indent.all (c.column < ·) then none
    else
      match c.break? with
      | some (b, c) => blockBreaks least fuel indent reached (b :: breaks) c
      | none => some (indent.getD (max reached least), breaks, c)

/-- Lines of a block. `text` holds what was read, latest first, without the line break before this
place and the empty lines after that. -/
def blockLines (isLiteral : Bool) (indent : Nat) : (fuel : Nat) → (text : List Char) →
    (lineBreak : List Char) → (breaks : List Char) → (afterBlank : Bool) → Cursor →
    Option (List Char × List Char × List Char × Cursor)
  | 0, _, _, _, _, _ => none
  | fuel + 1, text, lineBreak, breaks, afterBlank, c =>
    if c.column ≠ indent ∨ c.rest.isEmpty then some (text, lineBreak, breaks, c)
    else
      let startsBlank := c.head?.any isBlank
      let joint := if !isLiteral && lineBreak = ['\n'] && !afterBlank && !startsBlank then
          if breaks.isEmpty then [' '] else []
        else lineBreak
      let line := c.rest.takeWhile fun x => !isBreak x
      let text := line.reverse ++ (breaks ++ (joint ++ text))
      let c := c.skip line.length
      let (lineBreak, c) := match c.break? with
        | some (b, c) => ([b], c)
        | none => ([], c)
      match blockBreaks 1 (c.rest.length + 1) (some indent) 0 [] c with
      | some (_, breaks, c) => blockLines isLiteral indent fuel text lineBreak breaks startsBlank c
      | none => none

/-- A block after its sign, in a collection that is indented by `outer`, or by nothing. -/
def scanBlock (isLiteral : Bool) (outer : Option Nat) (c : Cursor) : Option ScannedScalar :=
  let (chomping, increment, c) := blockMarks c
  if increment = some 0 then none
  else
    let c := (c.skipWhile isBlank).skipComment
    let start := if c.rest.isEmpty then some c else c.break?.map Prod.snd
    match start with
    | none => none
    | some c =>
      let indent := increment.map (outer.getD 0 + ·)
      let least := max 1 ((outer.map (· + 1)).getD 0)
      match blockBreaks least (c.rest.length + 1) indent 0 [] c with
      | none => none
      | some (indent, breaks, c) =>
        match blockLines isLiteral indent (c.rest.length + 1) [] [] breaks false c with
        | none => none
        | some (text, lineBreak, breaks, c) =>
          let text := match chomping with
            | .strip => text
            | .clip => lineBreak ++ text
            | .keep => breaks ++ (lineBreak ++ text)
          some { text := text.reverse, next := c }

end ArchLint.Yaml
