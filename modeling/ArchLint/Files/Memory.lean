import ArchLint.Files.View
import ArchLint.Text.Affix

/-!
Files held in memory. There are no directories of their own: one exists as long as some file lies
under it, which shows in the file's path.
-/

namespace ArchLint

/-- Texts by path, the latest first. -/
structure MemoryFiles where
  files : List (String × String) := []
  deriving DecidableEq, Repr

namespace MemoryFiles

/-- Adds a file, in place of one that has the same path. -/
def insert (m : MemoryFiles) (path text : String) : MemoryFiles :=
  ⟨(path, text) :: m.files.filter fun f => f.1 ≠ path⟩

def ofList (files : List (String × String)) : MemoryFiles :=
  files.foldl (fun m f => m.insert f.1 f.2) {}

def read (m : MemoryFiles) (path : String) : Except ReadError String :=
  match m.files.lookup path with
  | some text => .ok text
  | none => .error .notFound

/-- A path without the slashes at its end, and then exactly one. -/
def asDirectory (path : String) : List Char :=
  (path.toList.reverse.dropWhile (· = '/')).reverse ++ ['/']

/-- A file is there, or a file under it. -/
def isThere (m : MemoryFiles) (path : String) : Bool :=
  m.files.any fun f => f.1 = path || (Text.dropHead? (asDirectory path) f.1.toList).isSome

def view (m : MemoryFiles) : FileView := { read := m.read, isThere := m.isThere }

end MemoryFiles

end ArchLint
