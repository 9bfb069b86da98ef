import ArchLint.Text.Path

/-!
Test files: how a path shows that it holds tests, and where the tests of a file are looked for.
-/

namespace ArchLint

/-- Marks of a test file anywhere in its path. -/
def testMarks : List String := [".test.", ".spec.", "__tests__/"]

/-- Names of directories that hold tests. -/
def testDirectories : List String := ["test", "tests"]

/-- A path is one of tests by a mark, or by a directory on the way to the file. -/
def isTestPath (path : String) : Bool :=
  testMarks.any (fun m => Text.occursIn m.toList path.toList) ||
    (Path.segments path).dropLast.any fun s => s ∈ testDirectories

/-- A path as stem and extension; a dot at its start or in a directory starts no extension. -/
def stemAndExtension (path : List Char) : List Char × List Char :=
  match Text.splitLast? '.' path with
  | some (stem, ext) => if stem ≠ [] ∧ '/' ∉ ext then (stem, ext) else (path, [])
  | none => (path, [])

/-- The stem under the directory of tests, where `src/` is left out. -/
def parallelStem (stem : List Char) : List Char :=
  "tests/".toList ++ (Text.dropHead? "src/".toList stem).getD stem

/-- Where the tests of a file may be: beside it, then under the directory of tests. -/
def testCandidates (path : String) : List String :=
  let (stem, ext) := stemAndExtension path.toList
  let tail := if ext.isEmpty then [] else '.' :: ext
  [stem, parallelStem stem].flatMap fun root =>
    [".test", ".spec"].map fun suffix => String.ofList (root ++ suffix.toList ++ tail)

end ArchLint
