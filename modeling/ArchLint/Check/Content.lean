import ArchLint.Check.Scene
import ArchLint.Rule.RuleSet

/-!
What files contain: keywords and patterns that are forbidden, and barrels that do more than to pass
on. A rule reports a file once, for the first keyword or pattern in the rule's order that occurs.
-/

namespace ArchLint.Check

def keywords (rule : Typed KeywordRule) (scene : Scene) : List Violation :=
  scene.scan (scene.filesOf rule.body.scope) fun s text =>
    match rule.body.keywords.find? fun k => Text.occursIn k.toList text.toList with
    | none => []
    | some k => [rule.head.violationAt s ("'" ++ s.path ++ "' contains forbidden keyword '" ++ k ++ "'")]

/-- The first pattern that matches. -/
def firstMatch? (patterns : List Pattern) (text : String) : Option Pattern :=
  patterns.find? fun p => p.isMatch text

def content (rule : Typed ContentRule) (scene : Scene) : List Violation :=
  let patterns := validPatterns rule.body.patterns
  scene.scan (scene.filesOf rule.body.scope) fun s text =>
    match firstMatch? patterns text with
    | none => []
    | some p =>
      [rule.head.violationAt s ("'" ++ s.path ++ "' matches forbidden pattern `" ++ p.source ++ "`")]

/-- The first symbol of each file whose path matches. -/
def filesMatching (scene : Scene) (pattern : Pattern) : List Symbol :=
  firstPerFile (scene.symbols.filter fun s => pattern.isMatch s.path)

def barrel (rule : Typed BarrelRule) (scene : Scene) : List Violation :=
  match Pattern.ofText? rule.body.filePattern with
  | none => []
  | some files =>
    let patterns := validPatterns rule.body.patterns
    scene.scan (filesMatching scene files) fun s text =>
      match firstMatch? patterns text with
      | none => []
      | some p =>
        [rule.head.violation s.path ("barrel file '" ++ s.path ++
          "' should only re-export, but matches `" ++ p.source ++ "`")]

end ArchLint.Check
