import ArchLint.Distinct
import ArchLint.Severity

/-!
A departure of the project from its grammar, and the removal of repeated ones. Two violations are
repetitions of each other when file, rule name and message, written one after the other with a
separator between them, give the same text; the first of them stays.
-/

namespace ArchLint

/-- What is reported of a file, or of the project as a whole. -/
structure Violation where
  ruleName : String
  severity : Severity
  file : String
  message : String
  sourceRole : Option String := none
  targetRole : Option String := none
  dependency : Option String := none
  deriving DecidableEq, Repr

/-- The file that stands for the whole project. -/
def projectFile : String := "PROJECT"

namespace Violation

/-- One line: where, how grave, what. -/
def line (v : Violation) : String := v.file ++ ": " ++ v.severity.name ++ " " ++ v.message

/-- The character that separates the parts of a key. -/
def separator : String := "\u001f"

/-- What repetitions have in common. -/
def key (v : Violation) : String := v.file ++ separator ++ v.ruleName ++ separator ++ v.message

/-- Drops repetitions. -/
def dedup (vs : List Violation) : List Violation := distinctBy key vs

end Violation

end ArchLint
