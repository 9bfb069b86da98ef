import ArchLint.Number.Binary64

/-!
How alike two names are. The characters of one name claim equal characters of the other that stand
no farther away than a window, each the first that is free; the share of claimed characters, less
half of those that are out of order, is the score, and names that begin alike score higher. The
score is a rational number, and every operation on it is rounded as the caller says.
-/

namespace ArchLint.Similarity

/-- What becomes of the exact result of an operation. -/
abbrev Rounding := Rat → Rat

/-- No rounding at all. -/
def exact : Rounding := id

/-- Rounding to binary64. -/
def binary64 : Rounding := Binary64.nearest

/-- How far apart two characters may stand that are matched. -/
def window (a b : List Char) : Nat := max a.length b.length / 2 - 1

/-- The first free place of `b` near `i` that holds `c`; `taken` lists the pairs claimed so far. -/
def claim? (w : Nat) (b : List Char) (taken : List (Nat × Nat)) (i : Nat) (c : Char) : Option Nat :=
  (List.range' (i - w) (i + w + 1 - (i - w))).find? fun j =>
    b[j]? = some c ∧ j ∉ taken.map Prod.snd

/-- The pairs claimed by the characters from place `i` on, latest first. -/
def scanFrom (w : Nat) (b : List Char) : Nat → List Char → List (Nat × Nat) → List (Nat × Nat)
  | _, [], taken => taken
  | i, c :: cs, taken =>
    match claim? w b taken i c with
    | some j => scanFrom w b (i + 1) cs ((i, j) :: taken)
    | none => scanFrom w b (i + 1) cs taken

/-- All pairs of places that are matched, in the order of the first name. -/
def pairs (a b : List Char) : List (Nat × Nat) := (scanFrom (window a b) b 0 a []).reverse

/-- The characters of a name at the places that are listed. -/
def pick (cs : List Char) (places : List Nat) : List Char :=
  (List.range cs.length).filterMap fun i => if i ∈ places then cs[i]? else none

/-- How many matched characters differ when both names list theirs in order. -/
def misplaced (a b : List Char) : Nat :=
  let ps := pairs a b
  let left := pick a (ps.map Prod.fst)
  let right := pick b (ps.map Prod.snd)
  ((left.zip right).filter fun p => p.1 ≠ p.2).length

/-- The mean of three shares: of each name that is matched, and of the matches that are in order. -/
def jaro (r : Rounding) (a b : List Char) : Rat :=
  let m : Rat := (pairs a b).length
  let t : Rat := (misplaced a b : Rat) / 2
  if m = 0 then 0
  else r (r (r (r (m / a.length) + r (m / b.length)) + r (r (m - t) / m)) / 3)

/-- The number of characters that both names begin with, up to four. -/
def commonHead (a b : List Char) : Nat :=
  (((a.zip b).take 4).takeWhile fun p => p.1 = p.2).length

/-- The score with a tenth of what is missing added for every common character at the head. -/
def boosted (r : Rounding) (a b : List Char) : Rat :=
  let j := jaro r a b
  r (j + r (r (commonHead a b * r (1 / 10)) * r (1 - j)))

/-- The score of two names: one for equal names, and none when only one of them is empty. -/
def score (r : Rounding) (a b : List Char) : Rat :=
  if a = b then 1
  else if a = [] ∨ b = [] then 0
  else if boosted r a b ≤ 1 then boosted r a b
  else 1

end ArchLint.Similarity
