/-!
Sets of characters as ranges of code points, both ends included. `normalize` brings any ranges into
the one ascending form in which no two of them touch; complement, intersection and difference are
read off that form.
-/

namespace ArchLint

structure CharSet where
  ranges : List (Nat × Nat)
  deriving Repr, DecidableEq

namespace CharSet

/-- The greatest code point. -/
def top : Nat := 0x10FFFF

def empty : CharSet := ⟨[]⟩

def full : CharSet := ⟨[(0, top)]⟩

def range (lo hi : Nat) : CharSet := ⟨[(lo, hi)]⟩

def singleton (c : Char) : CharSet := range c.toNat c.toNat

/-- Is the code point in one of the ranges? -/
def holds (s : CharSet) (n : Nat) : Bool :=
  s.ranges.any fun r => decide (r.1 ≤ n) && decide (n ≤ r.2)

def contains (s : CharSet) (c : Char) : Bool := s.holds c.toNat

/-- Joins a range to the latest one when they touch. -/
def join (acc : List (Nat × Nat)) (r : Nat × Nat) : List (Nat × Nat) :=
  match acc with
  | [] => [r]
  | (lo, hi) :: rest => if r.1 ≤ hi + 1 then (lo, max hi r.2) :: rest else r :: acc

/-- Puts a range before the first that starts no earlier. -/
def insertRange (r : Nat × Nat) : List (Nat × Nat) → List (Nat × Nat)
  | [] => [r]
  | s :: rest => if r.1 ≤ s.1 then r :: s :: rest else s :: insertRange r rest

/-- The same characters in ascending ranges that do not touch. -/
def normalize (s : CharSet) : CharSet :=
  let sorted := (s.ranges.filter fun r => r.1 ≤ r.2).foldr insertRange []
  ⟨(sorted.foldl join []).reverse⟩

/-- What lies between ascending ranges, from `low` upward. -/
def gapsFrom (low : Nat) : List (Nat × Nat) → List (Nat × Nat)
  | [] => if low ≤ top then [(low, top)] else []
  | (lo, hi) :: rest =>
    if low < lo then (low, lo - 1) :: gapsFrom (hi + 1) rest else gapsFrom (hi + 1) rest

def complement (s : CharSet) : CharSet := ⟨gapsFrom 0 s.normalize.ranges⟩

def union (s t : CharSet) : CharSet := normalize ⟨s.ranges ++ t.ranges⟩

def inter (s t : CharSet) : CharSet := complement (s.complement.union t.complement)

def diff (s t : CharSet) : CharSet := s.inter t.complement

/-- What is in exactly one of the two. -/
def symmDiff (s t : CharSet) : CharSet := (s.diff t).union (t.diff s)

def unions (sets : List CharSet) : CharSet := normalize ⟨sets.flatMap ranges⟩

/-- Ranges from alternating distances: to the next range, then its length. -/
def ofSteps (low : Nat) : List Nat → List (Nat × Nat)
  | gap :: size :: rest => (low + gap, low + gap + size - 1) :: ofSteps (low + gap + size) rest
  | [gap] => [(low + gap, top)]
  | [] => []

/-- Natural numbers written with blanks or line breaks between them. -/
def readNumbers (text : String) : List Nat :=
  (text.toList.splitOnP Char.isWhitespace).filterMap fun ds =>
    if ds.isEmpty then none else some (ds.foldl (fun n c => 10 * n + (c.toNat - 48)) 0)

/-- Reads a set from its table entry. -/
def ofTable (text : String) : CharSet := ⟨ofSteps 0 (readNumbers text)⟩

end CharSet

end ArchLint
