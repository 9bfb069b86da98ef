import ArchLint.Violation

/-!
The outcome of a run: the violations that remain, and how many files and symbols were looked at.
-/

namespace ArchLint

structure Report where
  violations : List Violation := []
  filesChecked : Nat := 0
  symbolsChecked : Nat := 0
  deriving DecidableEq, Repr

namespace Report

/-- The violations of one weight. -/
def ofSeverity (r : Report) (s : Severity) : List Violation :=
  r.violations.filter fun v => v.severity = s

/-- How many violations have one weight. -/
def count (r : Report) (s : Severity) : Nat := (r.ofSeverity s).length

/-- A run fails when an error remains. -/
def hasErrors (r : Report) : Bool := r.violations.any fun v => v.severity = .error

end Report

end ArchLint
