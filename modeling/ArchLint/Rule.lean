import ArchLint.Number.Binary64
import ArchLint.Role
import ArchLint.Violation

/-!
Rules of a grammar. Every rule has a name, a weight and perhaps a comment; what it demands depends
on its kind. A violation quotes the rule's name before the finding and its comment after it.
-/

namespace ArchLint

/-- What all rules have in common. -/
structure RuleHead where
  name : String
  severity : Severity
  comment : Option String := none
  deriving DecidableEq, Repr

namespace RuleHead

/-- The finding between the rule's name and its comment. -/
def message (h : RuleHead) (finding : String) : String :=
  let text := "[" ++ h.name ++ "] " ++ finding
  match h.comment with
  | some c => text ++ " (" ++ c ++ ")"
  | none => text

/-- A violation of the rule. -/
def violation (h : RuleHead) (file finding : String) : Violation :=
  { ruleName := h.name, severity := h.severity, file, message := h.message finding }

end RuleHead

/-- Paths of the scope match the pattern. -/
structure NamingRule where
  scope : RoleSelector
  pattern : String
  deriving DecidableEq, Repr

/-- From one set of roles to another. -/
structure EdgeRule where
  source : RoleSelector
  target : RoleSelector
  deriving DecidableEq, Repr

/-- What a forbidden dependency leads to. -/
inductive ForbiddenTarget where
  | roles (target : RoleSelector)
  | cycle
  deriving DecidableEq, Repr

/-- No dependency from the source to the target. -/
structure ForbiddenRule where
  source : RoleSelector
  target : ForbiddenTarget
  deriving DecidableEq, Repr

/-- No two files of the scope have names as similar as the threshold; words of one group of the
thesaurus count as one word. -/
structure SynonymRule where
  scope : RoleSelector
  threshold : Binary64
  thesaurus : List (List String)
  deriving DecidableEq, Repr

/-- Something depends on every symbol of the scope whose path no pattern excuses. -/
structure UnreferencedRule where
  scope : RoleSelector
  ignored : List String
  deriving DecidableEq, Repr

/-- Files of the scope have at most so many lines. -/
structure FileSizeRule where
  scope : RoleSelector
  maxLines : Nat
  deriving DecidableEq, Repr

/-- Files of the scope have a test beside them. -/
structure TestCoverageRule where
  scope : RoleSelector
  deriving DecidableEq, Repr

/-- Files of the scope contain none of the keywords. -/
structure KeywordRule where
  scope : RoleSelector
  keywords : List String
  deriving DecidableEq, Repr

/-- The directories exist. -/
structure StructureRule where
  directories : List String
  deriving DecidableEq, Repr

/-- Files of the scope with so many lines have a documentation comment, if that is demanded. -/
structure DocumentationRule where
  scope : RoleSelector
  minLines : Nat
  demandsComment : Bool
  deriving DecidableEq, Repr

/-- Files of the scope have at most so many public methods and properties. -/
structure ComplexityRule where
  scope : RoleSelector
  maxMethods : Nat
  maxProperties : Nat
  deriving DecidableEq, Repr

/-- There are so many test files for each production file. -/
structure TestRatioRule where
  ratio : Binary64
  deriving DecidableEq, Repr

/-- Files of the scope have on average not more lines than the target times the tolerance. -/
structure GranularityRule where
  scope : RoleSelector
  target : Binary64
  tolerance : Binary64
  deriving DecidableEq, Repr

/-- Files of the scope match none of the patterns. -/
structure ContentRule where
  scope : RoleSelector
  patterns : List String
  deriving DecidableEq, Repr

/-- Files whose path matches the file pattern match none of the patterns. -/
structure BarrelRule where
  filePattern : String
  patterns : List String
  deriving DecidableEq, Repr

/-- What a rule demands. -/
inductive RuleKind where
  | naming (body : NamingRule)
  | forbidden (body : ForbiddenRule)
  | required (body : EdgeRule)
  | allowed (body : EdgeRule)
  | synonyms (body : SynonymRule)
  | unreferenced (body : UnreferencedRule)
  | fileSize (body : FileSizeRule)
  | testCoverage (body : TestCoverageRule)
  | keywords (body : KeywordRule)
  | layout (body : StructureRule)
  | documentation (body : DocumentationRule)
  | complexity (body : ComplexityRule)
  | testRatio (body : TestRatioRule)
  | granularity (body : GranularityRule)
  | content (body : ContentRule)
  | barrel (body : BarrelRule)
  deriving DecidableEq, Repr

namespace RuleKind

/-- The word for a kind in grammar documents. -/
def word : RuleKind → String
  | naming _ => "naming_pattern"
  | forbidden _ => "forbidden"
  | required _ => "required"
  | allowed _ => "allowed"
  | synonyms _ => "find_synonyms"
  | unreferenced _ => "detect_unreferenced"
  | fileSize _ => "file_size"
  | testCoverage _ => "test_coverage"
  | keywords _ => "forbidden_keywords"
  | layout _ => "required_structure"
  | documentation _ => "documentation_required"
  | complexity _ => "class_complexity"
  | testRatio _ => "minimum_test_ratio"
  | granularity _ => "granularity_metric"
  | content _ => "forbidden_patterns"
  | barrel _ => "barrel_purity"

end RuleKind

structure Rule where
  head : RuleHead
  kind : RuleKind
  deriving DecidableEq, Repr

/-- The roles and rules of a project, in the order in which the document lists them. -/
structure Grammar where
  version : String
  language : String
  roles : List RoleDefinition
  rules : List Rule

end ArchLint
