import ArchLint.Text.Affix
import ArchLint.Text.Path
import ArchLint.TypeScript.Reader

/-!
From the name of a module to the file it means. A relative name is joined to the directory of the
file that imports it, and never leaves the project; the file is then looked for under the path
itself, under the source of an emitted file, with every source extension, and as the index of a
directory.
-/

namespace ArchLint.TypeScript

/-- Is a module named by its place relative to the importing file? -/
def isRelative (specifier : String) : Bool :=
  specifier = "." || specifier = ".." || (Text.dropHead? ['.', '/'] specifier.toList).isSome ||
    (Text.dropHead? ['.', '.', '/'] specifier.toList).isSome

/-- One segment of a relative path, taken from a directory; nothing above the root. -/
def stepInto (directory : List String) (segment : String) : Option (List String) :=
  if segment = "" ∨ segment = "." then some directory
  else if segment = ".." then if directory = [] then none else some directory.dropLast
  else some (directory ++ [segment])

/-- The segments of the path that a specifier means, as seen from a directory. -/
def joinFrom (directory : List String) (segments : List String) : Option (List String) :=
  segments.foldlM stepInto directory

/-- The path that a specifier means in the file at another path. -/
def join (importer specifier : String) : Option String :=
  (joinFrom (Path.segments importer).dropLast (Path.segments specifier)).map Path.ofSegments

/-- The extensions of the sources of emitted files. -/
def sourcesOf : List (String × List String) :=
  [("js", ["ts", "tsx"]), ("jsx", ["tsx"]), ("mjs", ["mts"]), ("cjs", ["cts"])]

/-- The sources from which a file may be emitted. -/
def emittedFrom (path : String) : List String :=
  match Text.splitLast? '.' path.toList with
  | some (stem, extension) =>
    ((sourcesOf.lookup (String.ofList extension)).getD []).map fun e =>
      String.ofList stem ++ "." ++ e
  | none => []

/-- Where the module at a path may be, in the order of trial. -/
def candidates (path : String) : List String :=
  let asFile := if path = "" then [] else
    path :: emittedFrom path ++ extensions.map fun e => path ++ "." ++ e
  let directory := if path = "" then "" else path ++ "/"
  asFile ++ extensions.map fun e => directory ++ "index." ++ e

/-- The file that a specifier means. -/
def resolve (files : List String) (importer specifier : String) : Option String :=
  if isRelative specifier then
    (join importer specifier).bind fun path => (candidates path).find? fun c => c ∈ files
  else none

end ArchLint.TypeScript
