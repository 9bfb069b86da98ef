import ArchLint.Check.Content
import ArchLint.Check.Dependency
import ArchLint.Check.Hygiene
import ArchLint.Check.Layout
import ArchLint.Check.Metrics
import ArchLint.Check.Naming

/-!
A whole run. The checks are grouped into families; a family is left out when none of its buckets
has a rule, and the others report in a fixed order.
-/

namespace ArchLint

/-- A family of checks. -/
inductive Family where
  | naming
  | dependency
  | hygiene
  | fileMetrics
  | codePattern
  | layout
  deriving DecidableEq, Repr

namespace Family

/-- The families in the order of their reports. -/
def all : List Family := [naming, dependency, hygiene, fileMetrics, codePattern, layout]

def name : Family → String
  | naming => "naming"
  | dependency => "dependency"
  | hygiene => "hygiene"
  | fileMetrics => "file-metrics"
  | codePattern => "code-pattern"
  | layout => "structure"

/-- Is there a rule for the family? -/
def isActive (rules : RuleSet) : Family → Bool
  | naming => rules.hasNaming
  | dependency => rules.hasDependency
  | hygiene => rules.hasHygiene
  | fileMetrics => rules.hasFileMetrics
  | codePattern => rules.hasCodePattern
  | layout => rules.hasStructure

/-- What a family reports. -/
def check (rules : RuleSet) (scene : Scene) : Family → List Violation
  | naming => rules.naming.flatMap fun r => Check.naming r scene
  | dependency =>
    let g := FileGraph.ofSymbols scene.symbols
    Check.forbidden rules.forbidden g ++
      rules.required.flatMap (fun r => Check.required r g) ++
      rules.circular.flatMap fun r => Check.circular r g
  | hygiene =>
    rules.synonyms.flatMap (fun r => Check.synonyms r scene) ++
      rules.unreferenced.flatMap fun r => Check.unreferenced r scene
  | fileMetrics =>
    rules.fileSize.flatMap (fun r => Check.fileSize r scene) ++
      rules.testCoverage.flatMap (fun r => Check.testCoverage r scene) ++
      rules.documentation.flatMap (fun r => Check.documentation r scene) ++
      rules.complexity.flatMap (fun r => Check.complexity r scene) ++
      rules.granularity.flatMap fun r => Check.granularity r scene
  | codePattern =>
    rules.keywords.flatMap (fun r => Check.keywords r scene) ++
      rules.content.flatMap (fun r => Check.content r scene) ++
      rules.barrel.flatMap fun r => Check.barrel r scene
  | layout =>
    rules.layout.flatMap (fun r => Check.layout r scene) ++
      rules.testRatio.flatMap fun r => Check.testRatio r scene

end Family

namespace RuleSet

/-- The families that have rules. -/
def families (rules : RuleSet) : List Family := Family.all.filter (Family.isActive rules)

/-- What all families with rules report, one after the other. -/
def run (rules : RuleSet) (scene : Scene) : List Violation :=
  rules.families.flatMap (Family.check rules scene)

end RuleSet

end ArchLint
