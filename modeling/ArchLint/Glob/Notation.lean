import ArchLint.Glob

/-!
Reading patterns of paths. A pattern is first cut into marks: characters, wildcards, sets of
characters and what belongs to alternatives. Then marks are put together: two stars next to slashes
stand for folders, and braces hold alternatives.
-/

namespace ArchLint.Glob

/-- What a pattern is made of. -/
inductive Mark where
  | char (c : Char)
  | question
  | star
  | set (negated : Bool) (ranges : List (Char × Char))
  | opening
  | closing
  | comma
  deriving DecidableEq, Repr

/-! ### Marks -/

/-- What comes of a set of characters. -/
inductive SetReading where
  /-- A range starts behind its end. -/
  | malformed
  | unclosed
  /-- The ranges, and the number of characters up to the closing bracket. -/
  | closed (ranges : List (Char × Char)) (length : Nat)

/-- Reads the ranges of a set, after those already read, the latest first. At the start a bracket
and a dash are plain characters, and so is a dash at the end. -/
def readRanges (ranges : List (Char × Char)) (isFirst inRange : Bool) (length : Nat) :
    List Char → SetReading
  | [] => .unclosed
  | c :: cs =>
    if c = ']' ∧ !isFirst then
      .closed (if inRange then (('-', '-') :: ranges).reverse else ranges.reverse) (length + 1)
    else if c = '-' ∧ !isFirst ∧ !inRange then readRanges ranges false true (length + 1) cs
    else if inRange then
      match ranges with
      | [] => .malformed
      | r :: ranges =>
        if c < r.1 then .malformed else readRanges ((r.1, c) :: ranges) false false (length + 1) cs
    else readRanges ((c, c) :: ranges) false false (length + 1) cs

/-- A set of characters behind its opening bracket: is it negated, and what comes of it? -/
def readSet (cs : List Char) : Bool × SetReading :=
  match cs with
  | '!' :: cs => (true, readRanges [] true false 1 cs)
  | '^' :: cs => (true, readRanges [] true false 1 cs)
  | cs => (false, readRanges [] true false 0 cs)

/-- The marks of a text. A backslash makes the next character plain. If brackets may stand open, the
first one that does is a plain character, and so are all that follow. -/
def marks? (mayStandOpen : Bool) (knowsSets : Bool) : List Char → Option (List Mark)
  | [] => some []
  | '\\' :: [] => none
  | '\\' :: c :: cs => do return .char c :: (← marks? mayStandOpen knowsSets cs)
  | c :: cs =>
    if c = '[' ∧ knowsSets then
      match readSet cs with
      | (_, .malformed) => none
      | (_, .unclosed) =>
        if mayStandOpen then do return .char '[' :: (← marks? mayStandOpen false cs) else none
      | (negated, .closed ranges length) => do
        return .set negated ranges :: (← marks? mayStandOpen knowsSets (cs.drop length))
    else do
      let mark := match c with
        | '?' => Mark.question
        | '*' => .star
        | '\x7b' => .opening
        | '\x7d' => .closing
        | ',' => .comma
        | c => .char c
      return mark :: (← marks? mayStandOpen knowsSets cs)
termination_by cs => cs.length
decreasing_by all_goals (simp_all only [List.length_cons, List.length_drop]; omega)

/-! ### Pieces -/

/-- The bytes of a character. -/
def bytesOf (c : Char) : List UInt8 := String.utf8EncodeChar c

/-- A range of characters as ranges of bytes. Between longer characters only the last byte of the
first and the first byte of the last make a range. -/
def byteRanges (r : Char × Char) : List (UInt8 × UInt8) :=
  let low := bytesOf r.1
  let high := bytesOf r.2
  if r.1 = r.2 then low.map fun b => (b, b)
  else (low.dropLast.map fun b => (b, b)) ++ [(low.getLastD 0, high.headD 0)] ++
    high.tail.map fun b => (b, b)

/-- A piece that asks for nothing. -/
def isBlank : GlobPiece → Bool
  | .oneOf [] => true
  | _ => false

/-- Alternatives that are being read: those before, the latest first, and the pieces in front of
all of them. -/
structure Group where
  closed : List Glob
  before : List GlobPiece

/-- The piece for alternatives; an empty one does not count. -/
def alternatives (all : List Glob) : GlobPiece := .oneOf (all.filter fun g => !g.all isBlank)

/-- Two stars that stand for folders, in place of the slash before them. -/
def folders (piece : GlobPiece) : List GlobPiece → List GlobPiece
  | .leadingFolders :: ps => .leadingFolders :: ps
  | .everythingBelow :: ps => .everythingBelow :: ps
  | _ :: ps => piece :: ps
  | [] => [piece]

/-- Puts marks together. `pieces` are those of the pattern or alternative so far, the latest first,
and `afterSlash` tells whether a slash comes before the first mark. -/
def assemble (groups : List Group) (pieces : List GlobPiece) (afterSlash : Bool) :
    List Mark → Option Glob
  | [] => if groups.isEmpty then some pieces.reverse else none
  | .star :: .star :: .char '/' :: ms =>
    if pieces.isEmpty then assemble groups [.leadingFolders] true ms
    else if afterSlash then assemble groups (folders .innerFolders pieces) true ms
    else assemble groups (.byte slash :: .anyName :: .anyName :: pieces) true ms
  | [.star, .star] =>
    if !groups.isEmpty then none
    else if pieces.isEmpty then some [.leadingFolders]
    else if afterSlash then some (folders .everythingBelow pieces).reverse
    else some (.anyName :: .anyName :: pieces).reverse
  | .star :: .star :: m :: ms =>
    if !pieces.isEmpty ∧ afterSlash ∧ !groups.isEmpty ∧ m ∈ [.comma, .closing] then
      assemble groups (folders .everythingBelow pieces) false (m :: ms)
    else assemble groups (.anyName :: .anyName :: pieces) false (m :: ms)
  | .star :: ms => assemble groups (.anyName :: pieces) false ms
  | .char c :: ms =>
    assemble groups (((bytesOf c).map GlobPiece.byte).reverse ++ pieces) (c = '/') ms
  | .question :: ms => assemble groups (.anyByte :: pieces) false ms
  | .set negated ranges :: ms =>
    assemble groups (.byteSet negated (ranges.flatMap byteRanges) :: pieces) false ms
  | .opening :: ms => assemble (⟨[], pieces⟩ :: groups) [] false ms
  | .closing :: ms =>
    match groups with
    | [] => none
    | g :: groups =>
      assemble groups (alternatives (pieces.reverse :: g.closed).reverse :: g.before) false ms
  | .comma :: ms =>
    match groups with
    | [] => assemble [] (.byte 44 :: pieces) false ms
    | g :: groups => assemble ({ g with closed := pieces.reverse :: g.closed } :: groups) [] false ms

/-- The pattern of a text. -/
def ofText? (mayStandOpen : Bool) (text : List Char) : Option Glob :=
  (marks? mayStandOpen true text).bind (assemble [] [] false)

end ArchLint.Glob
