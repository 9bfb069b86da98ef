import ArchLint.Analysis
import ArchLint.Grammar.Source
import ArchLint.Project.Sources
import ArchLint.Project.SymbolTable

/-!
A project in a folder: its grammar, its symbols, and their analysis.
-/

namespace ArchLint

/-- Why a project cannot be checked. -/
inductive ProjectError where
  | grammar (cause : GrammarError)
  /-- The files of the project cannot be listed. -/
  | unlisted
  deriving DecidableEq, Repr

namespace Project

/-- The places where a grammar is looked for, in this order. -/
def grammarPlaces : List String :=
  ["grammar.yaml", "grammar.yml", "grammar.toml", "grammar.json", ".archgram/grammar.yaml"]

/-- The first of the usual places that holds a grammar. -/
def findGrammar? (w : Workplace) : Option String := grammarPlaces.find? w.isFile

/-- Reads the grammar at a path. -/
def readGrammar (w : Workplace) (path : String) : Except GrammarError Grammar :=
  match w.read path with
  | .error cause => .error (.unreadable cause)
  | .ok text => Grammar.ofText (.ofPath path) text

/-- The grammar that the configuration names or that is found in the project. -/
def loadGrammar (w : Workplace) (config : Config) : Except GrammarError Grammar :=
  match config.grammar.or (findGrammar? w) with
  | none => .error .notFound
  | some path => readGrammar w path

/-- The symbols of the project, unless its files cannot be listed. -/
def symbols? (w : Workplace) (exclusions : List String) : Option (List Symbol) := do
  let spot ← w.folder.toOption
  let paths ← sourcesAt? w.top w.links spot exclusions
  return symbolTable paths fun path => (w.view.text? path).map (TypeScript.analyze path)

/-- The analysis of a project under a grammar, and what it reports. -/
def check (w : Workplace) (config : Config) (grammar : Except GrammarError Grammar) :
    Except ProjectError (Analysis × Report) :=
  match grammar with
  | .error cause => .error (.grammar cause)
  | .ok grammar =>
    match symbols? w config.exclude with
    | none => .error .unlisted
    | some symbols =>
      let a : Analysis := { grammar, config, files := w.view }
      .ok (a, a.run symbols)

end Project

end ArchLint
