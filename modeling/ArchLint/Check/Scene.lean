import ArchLint.Files.View
import ArchLint.Rule
import ArchLint.Text.Affix

/-!
What every check looks at: the symbols of a project with their roles, and its files. A text that
was read beforehand is preferred to reading the file; whether a file exists is always asked of the
files themselves.
-/

namespace ArchLint

structure Scene where
  symbols : List Symbol
  files : FileView
  cache : TextCache := []

namespace Scene

/-- The text of a file, if it can be read. -/
def text? (s : Scene) (path : String) : Option String :=
  match s.cache.lookup path with
  | some text => some text
  | none => s.files.text? path

def isThere (s : Scene) (path : String) : Bool := s.files.isThere path

/-- The first symbol of each file with a symbol of a selected role. -/
def filesOf (s : Scene) (scope : RoleSelector) : List Symbol :=
  firstPerFile (s.symbols.filter fun x => scope.selects x.role)

/-- What `check` finds in the files that can be read, in order. -/
def scan (s : Scene) (files : List Symbol) (check : Symbol → String → List Violation) :
    List Violation :=
  files.flatMap fun x =>
    match s.text? x.path with
    | some text => check x text
    | none => []

end Scene

/-- One line more than there are line feeds. -/
def lineCount (text : String) : Nat := text.toList.count '\n' + 1

/-- The patterns among the notations, in order. -/
def validPatterns (sources : List String) : List Pattern := sources.filterMap Pattern.ofText?

/-- A violation about a symbol's file, with the symbol's role. -/
def RuleHead.violationAt (h : RuleHead) (s : Symbol) (finding : String) : Violation :=
  { h.violation s.path finding with sourceRole := some s.role }

end ArchLint
