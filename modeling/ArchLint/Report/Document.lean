import ArchLint.Document
import ArchLint.Json.Basic
import ArchLint.Report

/-!
Violations and reports in documents. What a violation does not say of roles and dependency is left
out when it is written.
-/

namespace ArchLint

open Document

namespace Violation

/-- The fields of a violation, in the order in which a list gives them. -/
def fields : List String :=
  ["rule_name", "severity", "file", "message", "from_role", "to_role", "dependency"]

def read? (c : Conventions) (d : Document) : Option Violation := do
  let fs ← d.asFields? c fields
  return {
    ruleName := ← fs.required? "rule_name" asText?
    severity := ← fs.required? "severity" (asWord? c Severity.ofName?)
    file := ← fs.required? "file" asText?
    message := ← fs.required? "message" asText?
    sourceRole := ← fs.optional? "from_role" asText?
    targetRole := ← fs.optional? "to_role" asText?
    dependency := ← fs.optional? "dependency" asText? }

/-- The entry of a text that may be missing. -/
def optionalEntry (key : String) : Option String → List (String × Json)
  | some s => [(key, .text s)]
  | none => []

def toJson (v : Violation) : Json :=
  .table <|
    [("rule_name", .text v.ruleName), ("severity", .text v.severity.name), ("file", .text v.file),
      ("message", .text v.message)] ++
    optionalEntry "from_role" v.sourceRole ++ optionalEntry "to_role" v.targetRole ++
    optionalEntry "dependency" v.dependency

end Violation

namespace Report

def fields : List String := ["violations", "files_checked", "symbols_checked"]

def read? (c : Conventions) (d : Document) : Option Report := do
  let fs ← d.asFields? c fields
  return {
    violations := ← fs.required? "violations" (asListOf? (Violation.read? c))
    filesChecked := ← fs.required? "files_checked" asNatural?
    symbolsChecked := ← fs.required? "symbols_checked" asNatural? }

def toJson (r : Report) : Json :=
  .table [("violations", .list (r.violations.map Violation.toJson)),
    ("files_checked", .number (.ofNat r.filesChecked)),
    ("symbols_checked", .number (.ofNat r.symbolsChecked))]

end Report

end ArchLint
