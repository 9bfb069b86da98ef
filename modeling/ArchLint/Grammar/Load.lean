import ArchLint.Grammar.Draft
import ArchLint.Number.Decimal
import ArchLint.Rule

/-!
From drafts to grammars. Roles are checked before rules, each in the order of the document, and the
first fault found is the answer. A rule of an unknown kind is passed over, whatever else it says.
-/

namespace ArchLint

/-- Why a draft is refused, and where. -/
inductive LoadError where
  | pattern (place : String) (cause : RoleError)
  | missingField (place kind field : String)
  | outOfRange (place field : String) (value : Binary64) (expected : String)
  | unknownSeverity (place word : String)
  deriving DecidableEq, Repr

namespace LoadError

/-- The wording of the error, with what the library of patterns says of a text that is none. -/
def message (e : LoadError) (reason : String → Option String := fun _ => none) : String :=
  match e with
  | pattern place cause => place ++ ": " ++ cause.message reason
  | missingField place kind field => place ++ ": `" ++ kind ++ "` rules require `" ++ field ++ "`"
  | outOfRange place field value expected =>
    place ++ ": `" ++ field ++ "` = " ++ Decimal.render value ++ " is out of range (" ++ expected ++ ")"
  | unknownSeverity place word =>
    place ++ ": unknown severity `" ++ word ++ "`, expected: error, warning, info"

end LoadError

namespace Draft

/-- The roles that a draft selects. -/
def Selector.resolve : Selector → RoleSelector
  | one role => RoleSelector.ofRole role
  | many roles => .any roles

/-- The role definition that a draft stands for. -/
def Role.load (index : Nat) (d : Role) : Except LoadError RoleDefinition :=
  match RoleDefinition.define d.name d.path with
  | .ok r => .ok r
  | .error cause => .error (.pattern ("roles[" ++ toString index ++ "]") cause)

/-- The threshold of similarity where none is given. -/
def defaultThreshold : Binary64 := Decimal.nearestScaled 85 (-2)

/-- Between zero and one, both included. -/
def isShare (x : Binary64) : Bool := Binary64.le Binary64.zero x && Binary64.le x Binary64.one

def isPositive (x : Binary64) : Bool := Binary64.lt Binary64.zero x

namespace Rule

variable (place : String) (d : Rule)

/-- A field that rules of this kind have to have. -/
def require {α : Type} (value : Option α) (field : String) : Except LoadError α :=
  match value with
  | some v => .ok v
  | none => .error (.missingField place d.kind field)

/-- A field that has to hold a pattern. -/
def checkPattern (source field : String) : Except LoadError Unit :=
  if Pattern.isValid source then .ok ()
  else .error (.pattern (place ++ "." ++ field) (.invalidPattern source))

/-- A field that has to lie in a range. -/
def checkRange (value : Binary64) (field : String) (fits : Bool) (expected : String) :
    Except LoadError Unit :=
  if fits then .ok () else .error (.outOfRange place field value expected)

def scopeRole : Except LoadError RoleSelector :=
  require place d ((d.scope.bind Scope.role).map Selector.resolve) "for.role"

def sourceRole : Except LoadError RoleSelector :=
  require place d (d.source.map Selector.resolve) "from.role"

def targetRole : Except LoadError RoleSelector :=
  require place d ((d.target.bind Target.role).map Selector.resolve) "to.role"

def loadNaming : Except LoadError NamingRule := do
  let pattern ← require place d d.pattern "pattern"
  checkPattern place pattern "pattern"
  return { scope := ← scopeRole place d, pattern }

def loadForbidden : Except LoadError ForbiddenRule := do
  let target ← require place d d.target "to"
  let target ← if target.circular then pure ForbiddenTarget.cycle
    else ForbiddenTarget.roles <$> targetRole place d
  return { source := ← sourceRole place d, target }

def loadEdge : Except LoadError EdgeRule := do
  let source ← sourceRole place d
  return { source, target := ← targetRole place d }

def loadSynonyms : Except LoadError SynonymRule := do
  let options := d.options.getD {}
  let threshold := options.threshold.getD defaultThreshold
  checkRange place threshold "options.similarity_threshold" (isShare threshold) "0 to 1"
  return { scope := ← scopeRole place d, threshold, thesaurus := options.thesaurus }

def loadUnreferenced : Except LoadError UnreferencedRule := do
  return { scope := ← scopeRole place d, ignored := (d.options.getD {}).ignored }

def loadFileSize : Except LoadError FileSizeRule := do
  let scope ← scopeRole place d
  return { scope, maxLines := ← require place d d.maxLines "max_lines" }

def loadKeywords : Except LoadError KeywordRule := do
  let scope ← sourceRole place d
  return { scope, keywords := ← require place d d.forbiddenContent "contains_forbidden" }

def loadDocumentation : Except LoadError DocumentationRule := do
  let scope ← scopeRole place d
  let minLines ← require place d d.minLines "min_lines"
  return { scope, minLines, demandsComment := d.demandsComment.getD true }

def loadComplexity : Except LoadError ComplexityRule := do
  let scope ← scopeRole place d
  let maxMethods ← require place d d.maxMethods "max_public_methods"
  return { scope, maxMethods, maxProperties := ← require place d d.maxProperties "max_properties" }

def loadTestRatio : Except LoadError TestRatioRule := do
  let ratio ← require place d d.ratio "global.test_ratio"
  checkRange place ratio "global.test_ratio" (isShare ratio) "0 to 1"
  return { ratio }

def loadGranularity : Except LoadError GranularityRule := do
  let target ← require place d d.targetLines "target_loc_per_file"
  checkRange place target "target_loc_per_file" (isPositive target) "> 0"
  let tolerance := d.tolerance.getD Binary64.one
  checkRange place tolerance "warning_threshold_multiplier" (isPositive tolerance) "> 0"
  return { scope := ← scopeRole place d, target, tolerance }

def loadContent : Except LoadError ContentRule := do
  let scope ← sourceRole place d
  return { scope, patterns := ← require place d d.forbiddenContent "contains_forbidden" }

def loadBarrel : Except LoadError BarrelRule := do
  let filePattern ← require place d (d.scope.bind Scope.filePattern) "for.file_pattern"
  checkPattern place filePattern "for.file_pattern"
  return { filePattern, patterns := ← require place d d.forbiddenContent "contains_forbidden" }

/-- What the rule demands, or nothing when its kind is unknown. -/
def loadKind : Except LoadError (Option RuleKind) :=
  match d.kind with
  | "naming_pattern" => (some ∘ RuleKind.naming) <$> loadNaming place d
  | "forbidden" => (some ∘ RuleKind.forbidden) <$> loadForbidden place d
  | "required" => (some ∘ RuleKind.required) <$> loadEdge place d
  | "allowed" => (some ∘ RuleKind.allowed) <$> loadEdge place d
  | "find_synonyms" => (some ∘ RuleKind.synonyms) <$> loadSynonyms place d
  | "detect_unreferenced" => (some ∘ RuleKind.unreferenced) <$> loadUnreferenced place d
  | "file_size" => (some ∘ RuleKind.fileSize) <$> loadFileSize place d
  | "test_coverage" => (fun s => some (.testCoverage ⟨s⟩)) <$> sourceRole place d
  | "forbidden_keywords" => (some ∘ RuleKind.keywords) <$> loadKeywords place d
  | "required_structure" =>
    (fun ds => some (.layout ⟨ds⟩)) <$> require place d d.directories "directories"
  | "documentation_required" => (some ∘ RuleKind.documentation) <$> loadDocumentation place d
  | "class_complexity" => (some ∘ RuleKind.complexity) <$> loadComplexity place d
  | "minimum_test_ratio" => (some ∘ RuleKind.testRatio) <$> loadTestRatio place d
  | "granularity_metric" => (some ∘ RuleKind.granularity) <$> loadGranularity place d
  | "forbidden_patterns" => (some ∘ RuleKind.content) <$> loadContent place d
  | "barrel_purity" => (some ∘ RuleKind.barrel) <$> loadBarrel place d
  | _ => .ok none

def loadSeverity : Except LoadError Severity :=
  match Severity.ofName? d.severity with
  | some s => .ok s
  | none => .error (.unknownSeverity place d.severity)

/-- Where a rule stands, for messages. -/
def placeOf (index : Nat) (d : Rule) : String :=
  "rules[" ++ toString index ++ "] '" ++ d.name ++ "'"

/-- The rule that a draft stands for, if its kind is known. -/
def load (index : Nat) (d : Rule) : Except LoadError (Option ArchLint.Rule) := do
  let place := placeOf index d
  match ← loadKind place d with
  | none => return none
  | some kind =>
    let severity ← loadSeverity place d
    return some { head := { name := d.name, severity, comment := d.comment }, kind }

end Rule

/-- Roles in order, the first of which has the given index. -/
def loadRoles : Nat → List Role → Except LoadError (List RoleDefinition)
  | _, [] => .ok []
  | i, d :: ds => do
    let r ← d.load i
    return r :: (← loadRoles (i + 1) ds)

/-- Rules in order, the first of which has the given index. -/
def loadRules : Nat → List Rule → Except LoadError (List ArchLint.Rule)
  | _, [] => .ok []
  | i, d :: ds => do
    match ← d.load i with
    | some r => return r :: (← loadRules (i + 1) ds)
    | none => loadRules (i + 1) ds

/-- The grammar that a draft stands for. -/
def Grammar.load (d : Grammar) : Except LoadError ArchLint.Grammar := do
  let roles ← loadRoles 0 d.roles
  let rules ← loadRules 0 d.rules
  return { version := d.version, language := d.language, roles, rules }

end Draft

end ArchLint
