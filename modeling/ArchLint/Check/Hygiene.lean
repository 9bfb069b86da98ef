import ArchLint.Check.Scene
import ArchLint.Naming.FileName
import ArchLint.Naming.Similarity
import ArchLint.Naming.Thesaurus
import ArchLint.Number.Decimal
import ArchLint.Rule.RuleSet

/-!
Hygiene of a code base: names of files that can hardly be told apart, and symbols that nothing
depends on.
-/

namespace ArchLint.Check

/-- The name by which a file is compared with others. -/
def comparedName (rule : SynonymRule) (s : Symbol) : List Char :=
  Thesaurus.apply rule.thesaurus (FileName.core s.fileName.toList)

/-- The score of two names, rounded at every step. -/
def nameScore (a b : List Char) : Rat := Similarity.score Similarity.binary64 a b

/-- Is a score at the threshold or above it? -/
def reaches (threshold : Binary64) (score : Rat) : Bool := !(Binary64.ofRat score).lt threshold

/-- A score in whole percent, a half going up. -/
def percent (score : Rat) : Nat := (Binary64.nearest (score * 100) + 1 / 2).floor.toNat

def synonymFinding (a b : Symbol) (score : Rat) : String :=
  "'" ++ a.path ++ "' and '" ++ b.path ++ "' have near-identical names (" ++
    toString (percent score) ++ "% similar)"

/-- The violation of two files with similar names, reported at the first of them. -/
def synonym? (rule : Typed SynonymRule) (a b : Symbol × List Char) : Option Violation :=
  let score := nameScore a.2 b.2
  if reaches rule.body.threshold score then
    some { rule.head.violation a.1.path (synonymFinding a.1 b.1 score) with
      dependency := some b.1.path }
  else none

/-- All pairs of a list, the earlier element first. -/
def orderedPairs {α : Type} : List α → List (α × α)
  | [] => []
  | x :: xs => xs.map (fun y => (x, y)) ++ orderedPairs xs

/-- Files of the scope with similar names. -/
def synonyms (rule : Typed SynonymRule) (scene : Scene) : List Violation :=
  let named := (scene.filesOf rule.body.scope).map fun s => (s, comparedName rule.body s)
  (orderedPairs named).filterMap fun p => synonym? rule p.1 p.2

/-- Does a symbol of another file depend on the path? -/
def isReferenced (symbols : List Symbol) (path : String) : Bool :=
  symbols.any fun s => s.path ≠ path && s.dependencies.contains path

def unreferencedFinding (s : Symbol) : String :=
  if s.kind = .wholeFile then "'" ++ s.path ++ "' is never imported (possibly dead code)"
  else s.kind.name ++ " '" ++ s.name ++ "' in '" ++ s.path ++
    "' is never imported (possibly dead code)"

/-- Symbols of the scope that nothing depends on and no pattern excuses. -/
def unreferenced (rule : Typed UnreferencedRule) (scene : Scene) : List Violation :=
  let excuses := validPatterns rule.body.ignored
  (scene.symbols.filter fun s =>
    rule.body.scope.selects s.role && !isReferenced scene.symbols s.path &&
      !excuses.any fun p => p.isMatch s.path).map fun s =>
    rule.head.violationAt s (unreferencedFinding s)

end ArchLint.Check
