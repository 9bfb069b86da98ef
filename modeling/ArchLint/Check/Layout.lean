import ArchLint.Check.Scene
import ArchLint.Check.TestPath
import ArchLint.Number.Decimal
import ArchLint.Rule.RuleSet

/-!
The layout of a project: directories that have to exist, and how many test files there are for the
production files.
-/

namespace ArchLint.Check

def layout (rule : Typed StructureRule) (scene : Scene) : List Violation :=
  (rule.body.directories.filter fun d => !scene.isThere d).map fun d =>
    rule.head.violation d ("required directory '" ++ d ++ "' is missing")

/-- How many files hold tests, and how many do not. -/
structure FileCounts where
  tests : Nat
  production : Nat
  deriving DecidableEq, Repr

def countFiles (symbols : List Symbol) : FileCounts :=
  let paths := (firstPerFile symbols).map Symbol.path
  { tests := (paths.filter isTestPath).length
    production := (paths.filter fun p => !isTestPath p).length }

/-- Test files for each production file. -/
def FileCounts.ratio (c : FileCounts) : Binary64 :=
  (Binary64.ofNat c.tests).div (Binary64.ofNat c.production)

def ratioFinding (rule : TestRatioRule) (c : FileCounts) : String :=
  "test ratio " ++ Decimal.renderFixed 2 c.ratio ++ " (" ++ toString c.tests ++ " test files for " ++
    toString c.production ++ " production files) is below " ++ Decimal.render rule.ratio

/-- A project without production files has no ratio to fall short of. -/
def testRatio (rule : Typed TestRatioRule) (scene : Scene) : List Violation :=
  let c := countFiles scene.symbols
  if c.production = 0 ∨ rule.body.ratio.le c.ratio then []
  else [rule.head.violation projectFile (ratioFinding rule.body c)]

end ArchLint.Check
