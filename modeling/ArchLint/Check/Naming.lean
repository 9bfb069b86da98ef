import ArchLint.Check.Scene
import ArchLint.Rule.RuleSet

/-!
Naming rules: the path of every symbol in the scope matches the pattern. A rule whose pattern is
none checks nothing.
-/

namespace ArchLint.Check

/-- Does the rule speak of a symbol, and the symbol's path not match? -/
def breaksNaming (rule : NamingRule) (pattern : Pattern) (s : Symbol) : Bool :=
  rule.scope.selects s.role && !pattern.isMatch s.path

def namingFinding (rule : NamingRule) (s : Symbol) : String :=
  s.role ++ " '" ++ s.path ++ "' does not match naming pattern `" ++ rule.pattern ++ "`"

def naming (rule : Typed NamingRule) (scene : Scene) : List Violation :=
  match Pattern.ofText? rule.body.pattern with
  | none => []
  | some pattern =>
    (scene.symbols.filter (breaksNaming rule.body pattern)).map fun s =>
      rule.head.violationAt s (namingFinding rule.body s)

end ArchLint.Check
