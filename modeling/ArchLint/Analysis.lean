import ArchLint.Check.Run
import ArchLint.Config
import ArchLint.Report

/-!
From symbols to a report: roles are assigned, the rules that the configuration leaves are checked,
and repeated violations are dropped. Reading files beforehand saves time and changes no answer.
-/

namespace ArchLint

/-- A grammar to check, how, and on which files. -/
structure Analysis where
  grammar : Grammar
  config : Config := {}
  files : FileView

namespace Analysis

/-- The rules that are checked. -/
def activeRules (a : Analysis) : List Rule := a.config.activeRules a.grammar.rules

/-- The texts of the symbols' files, as far as they can be read. -/
def preloaded (files : FileView) (symbols : List Symbol) : TextCache :=
  (firstPerFile symbols).filterMap fun s => (files.text? s.path).map fun text => (s.path, text)

/-- Does a check look into files? -/
def readsFiles (rules : RuleSet) : Bool := rules.hasFileMetrics || rules.hasCodePattern

/-- What the checks see. -/
def scene (a : Analysis) (rules : RuleSet) (symbols : List Symbol) : Scene :=
  { symbols, files := a.files,
    cache := if a.config.preload && readsFiles rules then preloaded a.files symbols else [] }

/-- Everything the checks report of symbols that have their roles, repetitions included. -/
def findings (a : Analysis) (symbols : List Symbol) : List Violation :=
  let rules := RuleSet.ofRules a.activeRules
  rules.run (a.scene rules symbols)

/-- The outcome of the analysis of symbols without roles. -/
def run (a : Analysis) (symbols : List Symbol) : Report :=
  let symbols := assignRoles a.grammar.roles symbols
  { violations := Violation.dedup (a.findings symbols)
    filesChecked := (firstPerFile symbols).length
    symbolsChecked := symbols.length }

end Analysis

end ArchLint
