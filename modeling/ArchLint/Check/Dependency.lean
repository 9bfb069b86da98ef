import ArchLint.Check.CycleSearch
import ArchLint.Check.FileGraph
import ArchLint.Rule.RuleSet

/-!
Dependency rules on the graph of files: dependencies that must not be, dependencies that must be,
and cycles. Of the forbidding rules that speak of one dependency only the first reports it.
-/

namespace ArchLint.Check

/-- Does a rule speak of dependencies between two roles? -/
def EdgeRule.covers (rule : EdgeRule) (source target : FileNode) : Bool :=
  rule.source.selects source.role && rule.target.selects target.role

def forbiddenFinding (source target : FileNode) : String :=
  source.role ++ " '" ++ source.path ++ "' must not depend on " ++ target.role ++ " '" ++
    target.path ++ "'"

/-- The violation of a rule by a dependency. -/
def forbiddenViolation (head : RuleHead) (source target : FileNode) : Violation :=
  { head.violation source.path (forbiddenFinding source target) with
    sourceRole := some source.role
    targetRole := some target.role
    dependency := some target.path }

/-- Dependencies that a rule forbids, each with the first such rule. -/
def forbidden (rules : List (Typed EdgeRule)) (g : FileGraph) : List Violation :=
  g.nodes.flatMap fun source => (g.targets source).filterMap fun target =>
    (rules.find? fun r => EdgeRule.covers r.body source target).map fun r =>
      forbiddenViolation r.head source target

/-- Does a file depend on one of the roles that the rule requires? -/
def isSatisfied (rule : EdgeRule) (g : FileGraph) (n : FileNode) : Bool :=
  (g.targets n).any fun t => rule.target.selects t.role

def requiredFinding (rule : EdgeRule) (n : FileNode) : String :=
  n.role ++ " '" ++ n.path ++ "' must depend on at least one " ++ rule.target.describe

/-- Files of the source roles without a dependency on the target roles. -/
def required (rule : Typed EdgeRule) (g : FileGraph) : List Violation :=
  (g.nodes.filter fun n => rule.body.source.selects n.role && !isSatisfied rule.body g n).map
    fun n =>
      { rule.head.violation n.path (requiredFinding rule.body n) with
        sourceRole := some n.role
        targetRole := some rule.body.target.describe }

/-- The files whose role is in the scope. -/
def cycleProblem (scope : RoleSelector) (g : FileGraph) : CycleSearch.Problem :=
  { successors := g.successors
    inScope := fun i => (g.node? i).any fun n => scope.selects n.role }

/-- The files of a cycle from its entry back to it. -/
def cycleText (cycle : List FileNode) (entry : FileNode) : String :=
  " -> ".intercalate ((cycle ++ [entry]).map FileNode.path)

/-- The violation that a cycle is. -/
def cycleViolation? (head : RuleHead) (cycle : List FileNode) : Option Violation :=
  match cycle with
  | [] => none
  | entry :: _ =>
    let text := cycleText cycle entry
    some { head.violation entry.path ("circular dependency: " ++ text) with
      sourceRole := some entry.role
      dependency := some text }

/-- The cycles among the files of the scope. -/
def circular (rule : Typed RoleSelector) (g : FileGraph) : List Violation :=
  (CycleSearch.findCycles (cycleProblem rule.body g)).filterMap fun cycle =>
    cycleViolation? rule.head (cycle.filterMap g.node?)

end ArchLint.Check
