import ArchLint.Pattern.Notation
import ArchLint.Pattern.Program

/-!
Patterns that texts are tested with. A pattern is made from its notation alone, so two patterns of
one notation are one pattern.
-/

namespace ArchLint

/-- A notation together with its program. -/
structure Pattern where
  source : String
  program : Pattern.Program
  compiled : (Pattern.Node.ofText? source).map Pattern.Program.ofNode = some program

namespace Pattern

/-- The pattern that a notation denotes, if it is one. -/
def ofText? (source : String) : Option Pattern :=
  match h : (Node.ofText? source).map Program.ofNode with
  | some program => some { source, program, compiled := h }
  | none => none

/-- Is the notation that of a pattern? -/
def isValid (source : String) : Bool := (Node.ofText? source).isSome

/-- The characters that may mean something else than themselves in a notation. -/
def metaCharacters : List Char :=
  ['\\', '.', '+', '*', '?', '(', ')', '|', '[', ']', '{', '}', '^', '$', '#', '&', '-', '~']

/-- The notation of a character. -/
def escaped (c : Char) : List Char := if c ∈ metaCharacters then ['\\', c] else [c]

/-- The notation of a text. -/
def escape (text : List Char) : List Char := text.flatMap escaped

/-- Does the pattern match somewhere in the text? -/
def isMatch (p : Pattern) (text : String) : Bool :=
  (searchFrom p.program none 0 [] none text.toList).isSome

/-- A match: the characters it covers, and those its first group covers. -/
structure Match where
  text : List Char
  first : Option (List Char)

/-- The text between two noted positions. -/
def between (cs : List Char) (pos : Nat) (notes : Notes) (slot : Nat) : Option (List Char) :=
  match noted slot notes, noted (slot + 1) notes with
  | some a, some b => some ((cs.drop (a - pos)).take (b - a))
  | _, _ => none

/-- Matches from left to right, none overlapping another; an empty one does not stand where the
match before it ends. -/
def matchesFrom (p : Program) : (fuel : Nat) → (before : Option Char) → (pos : Nat) →
    (lastEnd : Option Nat) → List Char → List Match
  | 0, _, _, _, _ => []
  | fuel + 1, before, pos, lastEnd, cs =>
    match searchFrom p before pos [] none cs with
    | none => []
    | some notes =>
      match noted 0 notes, noted 1 notes with
      | some a, some b =>
        if a = b ∧ lastEnd = some b then
          match cs with
          | [] => []
          | c :: cs => matchesFrom p fuel (some c) (pos + 1) lastEnd cs
        else
          let taken := cs.take (b - pos)
          let found := { text := (cs.drop (a - pos)).take (b - a), first := between cs pos notes 2 }
          let before := match taken.getLast? with
            | some c => some c
            | none => before
          found :: matchesFrom p fuel before b (some b) (cs.drop (b - pos))
      | _, _ => []

/-- All matches in a text. -/
def findAll (p : Pattern) (text : String) : List Match :=
  let cs := text.toList
  matchesFrom p.program (2 * cs.length + 2) none 0 none cs

theorem isValid_iff_ofText? (source : String) :
    isValid source = true ↔ (ofText? source).isSome = true := by
  unfold isValid ofText?
  split <;> rename_i h
  · rw [Option.map_eq_some_iff] at h
    obtain ⟨n, hn, -⟩ := h
    simp [hn]
  · rw [Option.map_eq_none_iff] at h
    simp [h]

theorem source_of_ofText? {source : String} {p : Pattern} (h : ofText? source = some p) :
    p.source = source := by
  unfold ofText? at h
  split at h
  · obtain rfl := Option.some.inj h
    rfl
  · cases h

end Pattern

end ArchLint
