import ArchLint.Symbol
import ArchLint.TypeScript.Specifier

/-!
The symbols of a project. Its files are taken in the order of their paths; each export of a file is
a symbol, and a file without exports is one itself. All symbols of a file depend on the files that
its imports mean, those that cannot be read included, but not on the file itself.
-/

namespace ArchLint

open TypeScript (FileAnalysis Export)

/-- Paths in ascending order. -/
def sortedPaths (paths : List String) : List String := paths.mergeSort fun a b => a ≤ b

/-- The name of a file without its last extension. -/
def stem (path : String) : String :=
  let name := Path.fileName path
  match Text.splitLast? '.' name.toList with
  | some (before, _) => String.ofList before
  | none => name

/-- The files of a project that the imports of one of them mean. -/
def importedFiles (files : List String) (path : String) (imports : List String) : List String :=
  (imports.filterMap (TypeScript.resolve files path)).filter (· ≠ path)

/-- The symbols of a file. -/
def fileSymbols (files : List String) (path : String) (a : FileAnalysis) : List Symbol :=
  let dependencies := importedFiles files path a.imports
  let symbol := fun name kind => (Symbol.declare path name kind).dependingOn dependencies
  match a.exports with
  | [] => [symbol (stem path) .wholeFile]
  | exports => exports.map fun (e : Export) => symbol e.name e.kind

/-- The symbols of all files that can be analyzed. -/
def symbolTable (paths : List String) (analysis? : String → Option FileAnalysis) : List Symbol :=
  let files := sortedPaths paths
  files.flatMap fun path => ((analysis? path).map (fileSymbols files path)).getD []

end ArchLint
