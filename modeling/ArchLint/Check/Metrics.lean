import ArchLint.Check.Complexity
import ArchLint.Check.Scene
import ArchLint.Check.TestPath
import ArchLint.Number.Decimal
import ArchLint.Rule.RuleSet

/-!
Measures of files: length, tests beside them, documentation, class members, and the average length
over the project. A file that cannot be read is passed over by the checks that read it.
-/

namespace ArchLint.Check

def fileSize (rule : Typed FileSizeRule) (scene : Scene) : List Violation :=
  scene.scan (scene.filesOf rule.body.scope) fun s text =>
    let lines := lineCount text
    if lines ≤ rule.body.maxLines then []
    else [rule.head.violationAt s ("'" ++ s.path ++ "' has " ++ toString lines ++ " lines (max " ++
      toString rule.body.maxLines ++ ")")]

/-- Is there a test of the file in one of the places where it may be? -/
def hasTest (scene : Scene) (path : String) : Bool :=
  (testCandidates path).any scene.isThere

def testCoverage (rule : Typed TestCoverageRule) (scene : Scene) : List Violation :=
  ((scene.filesOf rule.body.scope).filter fun s => !hasTest scene s.path).map fun s =>
    rule.head.violationAt s ("'" ++ s.path ++ "' has no test file (looked for " ++
      ", ".intercalate (testCandidates s.path) ++ ")")

/-- The opening of a documentation comment. -/
def docOpening : String := "/**"

def documentation (rule : Typed DocumentationRule) (scene : Scene) : List Violation :=
  if !rule.body.demandsComment then []
  else scene.scan (scene.filesOf rule.body.scope) fun s text =>
    let lines := lineCount text
    if lines < rule.body.minLines || Text.occursIn docOpening.toList text.toList then []
    else [rule.head.violationAt s ("'" ++ s.path ++ "' has " ++ toString lines ++ " lines but no " ++
      docOpening ++ " documentation comment")]

/-- A violation when a count is above its limit. -/
def tooMany (head : RuleHead) (s : Symbol) (count limit : Nat) (what : String) : List Violation :=
  if limit < count then
    [head.violationAt s ("'" ++ s.path ++ "' has " ++ toString count ++ " " ++ what ++ " (max " ++
      toString limit ++ ")")]
  else []

def complexity (rule : Typed ComplexityRule) (scene : Scene) : List Violation :=
  scene.scan (scene.filesOf rule.body.scope) fun s text =>
    tooMany rule.head s (Complexity.methods text) rule.body.maxMethods "public methods" ++
      tooMany rule.head s (Complexity.properties text) rule.body.maxProperties "properties"

/-- The lengths of the files that can be read. -/
def lengths (scene : Scene) (scope : RoleSelector) : List Nat :=
  (scene.filesOf scope).filterMap fun s => (scene.text? s.path).map lineCount

/-- The average of the lengths. -/
def average (lines : List Nat) : Binary64 :=
  (Binary64.ofNat (lines.foldr (· + ·) 0)).div (Binary64.ofNat lines.length)

def granularityFinding (rule : GranularityRule) (lines : List Nat) : String :=
  "average file length is " ++ Decimal.renderFixed 1 (average lines) ++ " lines across " ++
    toString lines.length ++ " files (target " ++ Decimal.render rule.target ++ " x " ++
    Decimal.render rule.tolerance ++ ")"

def granularity (rule : Typed GranularityRule) (scene : Scene) : List Violation :=
  let lines := lengths scene rule.body.scope
  if lines.isEmpty || (average lines).le (rule.body.target.mul rule.body.tolerance) then []
  else [rule.head.violation projectFile (granularityFinding rule.body lines)]

end ArchLint.Check
