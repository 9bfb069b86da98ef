import ArchLint.Rule

/-!
Rules sorted by what checks them. Each bucket keeps the order of the grammar, and every rule goes
into exactly one bucket.
-/

namespace ArchLint

/-- A rule of a known kind. -/
structure Typed (β : Type) where
  head : RuleHead
  body : β
  deriving DecidableEq, Repr

/-- A bucket for each check; forbidden dependencies and forbidden cycles are apart. -/
structure RuleSet where
  naming : List (Typed NamingRule) := []
  forbidden : List (Typed EdgeRule) := []
  required : List (Typed EdgeRule) := []
  allowed : List (Typed EdgeRule) := []
  circular : List (Typed RoleSelector) := []
  synonyms : List (Typed SynonymRule) := []
  unreferenced : List (Typed UnreferencedRule) := []
  fileSize : List (Typed FileSizeRule) := []
  testCoverage : List (Typed TestCoverageRule) := []
  keywords : List (Typed KeywordRule) := []
  layout : List (Typed StructureRule) := []
  documentation : List (Typed DocumentationRule) := []
  complexity : List (Typed ComplexityRule) := []
  testRatio : List (Typed TestRatioRule) := []
  granularity : List (Typed GranularityRule) := []
  content : List (Typed ContentRule) := []
  barrel : List (Typed BarrelRule) := []
  deriving DecidableEq, Repr

namespace RuleSet

/-- Puts a rule at the end of its bucket. -/
def push (s : RuleSet) (r : Rule) : RuleSet :=
  match r.kind with
  | .naming b => { s with naming := s.naming ++ [⟨r.head, b⟩] }
  | .forbidden ⟨source, .roles target⟩ =>
    { s with forbidden := s.forbidden ++ [⟨r.head, ⟨source, target⟩⟩] }
  | .forbidden ⟨source, .cycle⟩ => { s with circular := s.circular ++ [⟨r.head, source⟩] }
  | .required b => { s with required := s.required ++ [⟨r.head, b⟩] }
  | .allowed b => { s with allowed := s.allowed ++ [⟨r.head, b⟩] }
  | .synonyms b => { s with synonyms := s.synonyms ++ [⟨r.head, b⟩] }
  | .unreferenced b => { s with unreferenced := s.unreferenced ++ [⟨r.head, b⟩] }
  | .fileSize b => { s with fileSize := s.fileSize ++ [⟨r.head, b⟩] }
  | .testCoverage b => { s with testCoverage := s.testCoverage ++ [⟨r.head, b⟩] }
  | .keywords b => { s with keywords := s.keywords ++ [⟨r.head, b⟩] }
  | .layout b => { s with layout := s.layout ++ [⟨r.head, b⟩] }
  | .documentation b => { s with documentation := s.documentation ++ [⟨r.head, b⟩] }
  | .complexity b => { s with complexity := s.complexity ++ [⟨r.head, b⟩] }
  | .testRatio b => { s with testRatio := s.testRatio ++ [⟨r.head, b⟩] }
  | .granularity b => { s with granularity := s.granularity ++ [⟨r.head, b⟩] }
  | .content b => { s with content := s.content ++ [⟨r.head, b⟩] }
  | .barrel b => { s with barrel := s.barrel ++ [⟨r.head, b⟩] }

/-- Sorts rules in one pass. -/
def ofRules (rules : List Rule) : RuleSet := rules.foldl push {}

def hasNaming (s : RuleSet) : Bool := !s.naming.isEmpty

/-- Allowed dependencies ask for nothing, so they do not count. -/
def hasDependency (s : RuleSet) : Bool :=
  !(s.forbidden.isEmpty && s.required.isEmpty && s.circular.isEmpty)

def hasHygiene (s : RuleSet) : Bool := !(s.synonyms.isEmpty && s.unreferenced.isEmpty)

def hasFileMetrics (s : RuleSet) : Bool :=
  !(s.fileSize.isEmpty && s.testCoverage.isEmpty && s.documentation.isEmpty &&
    s.complexity.isEmpty && s.granularity.isEmpty)

def hasCodePattern (s : RuleSet) : Bool :=
  !(s.keywords.isEmpty && s.content.isEmpty && s.barrel.isEmpty)

def hasStructure (s : RuleSet) : Bool := !(s.layout.isEmpty && s.testRatio.isEmpty)

/-- Is there nothing to check? -/
def isEmpty (s : RuleSet) : Bool :=
  !(s.hasNaming || s.hasDependency || s.hasHygiene || s.hasFileMetrics || s.hasCodePattern ||
    s.hasStructure)

end RuleSet

end ArchLint
