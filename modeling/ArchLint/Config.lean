import ArchLint.Document
import ArchLint.Rule

/-!
The configuration of a run: where the project is, what is left out of it, and what becomes of the
rules of the grammar. A rule can be switched off by its name or be given another weight, and nothing
else of it changes.
-/

namespace ArchLint

open Document

/-- What a configuration says of the rules of one name. -/
structure RuleOverride where
  enabled : Option Bool := none
  severity : Option Severity := none
  deriving DecidableEq, Repr

structure Config where
  root : String := "."
  /-- The grammar's path below the root; without one the grammar is looked for. -/
  grammar : Option String := none
  /-- Paths that are no part of the project, as lines of an ignore file. -/
  exclude : List String := ["node_modules/", "dist/"]
  /-- Are files read once, before the checks? -/
  preload : Bool := true
  workers : Option Nat := none
  overrides : List (String × RuleOverride) := []
  deriving DecidableEq, Repr

namespace RuleOverride

def read? (c : Conventions) (d : Document) : Option RuleOverride := do
  let fs ← d.asFields? c ["enabled", "severity"]
  return {
    enabled := ← fs.optional? "enabled" asBool?
    severity := ← fs.optional? "severity" (asWord? c Severity.ofName?) }

/-- The rule under the override, unless that switches it off. -/
def apply (o : RuleOverride) (r : Rule) : Option Rule :=
  if o.enabled = some false then none
  else
    match o.severity with
    | some s => some { r with head := { r.head with severity := s } }
    | none => some r

end RuleOverride

namespace Config

/-- The overrides of a table by rule name. -/
def readOverrides? (c : Conventions) : Document → Option (List (String × RuleOverride))
  | .table entries => entries.mapM fun (key, d) => do return (← key, ← RuleOverride.read? c d)
  | _ => none

/-- The part of a configuration that is not about single rules. -/
def readAnalyzer? (c : Conventions) (d : Document) : Option Config := do
  let fs ← d.asFields? c ["root", "grammar", "exclude", "preload_content", "parallelism"]
  return {
    root := ← fs.withDefault? "root" "." asText?
    grammar := ← fs.optional? "grammar" asText?
    exclude := ← fs.withDefault? "exclude" ["node_modules/", "dist/"] (asListOf? asText?)
    preload := ← fs.withDefault? "preload_content" true asBool?
    workers := ← fs.optional? "parallelism" asNatural? }

def read? (c : Conventions) (d : Document) : Option Config := do
  let fs ← d.asFields? c ["analyzer", "rules"]
  let config ← fs.withDefault? "analyzer" {} (readAnalyzer? c)
  return { config with overrides := ← fs.withDefault? "rules" [] (readOverrides? c) }

/-- The rule as the configuration leaves it, or nothing. -/
def apply (c : Config) (r : Rule) : Option Rule :=
  match c.overrides.lookup r.head.name with
  | some o => o.apply r
  | none => some r

/-- The rules that remain, in order. -/
def activeRules (c : Config) (rules : List Rule) : List Rule := rules.filterMap c.apply

end Config

end ArchLint
