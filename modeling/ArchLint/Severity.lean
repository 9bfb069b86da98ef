/-!
How much a violation weighs. Only an error fails a run.
-/

namespace ArchLint

inductive Severity where
  | info
  | warning
  | error
  deriving DecidableEq, Repr

namespace Severity

/-- The name a grammar writes. -/
def name : Severity → String
  | info => "info"
  | warning => "warning"
  | error => "error"

/-- Position in the order of weight. -/
def rank : Severity → Nat
  | info => 0
  | warning => 1
  | error => 2

/-- Weights compare by rank. -/
instance : Ord Severity := ⟨fun a b => compare a.rank b.rank⟩

/-- Names are read exactly as they are written. -/
def ofName? (text : String) : Option Severity :=
  [error, warning, info].find? fun s => s.name = text

theorem ofName?_name (s : Severity) : ofName? s.name = some s := by cases s <;> rfl

end Severity

end ArchLint
