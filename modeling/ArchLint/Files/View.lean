/-!
What a run sees of a project's files: the text behind a path, or why there is none, and whether
anything exists there.
-/

namespace ArchLint

/-- Why a path gives no text. -/
inductive ReadError where
  | notFound
  | isDirectory
  | notDirectory
  | notText
  deriving DecidableEq, Repr

structure FileView where
  read : String → Except ReadError String
  isThere : String → Bool

namespace FileView

/-- The text behind a path, if there is one. -/
def text? (v : FileView) (path : String) : Option String :=
  match v.read path with
  | .ok text => some text
  | .error _ => none

end FileView

/-- Texts read beforehand, by path. -/
abbrev TextCache := List (String × String)

end ArchLint
