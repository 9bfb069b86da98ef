import ArchLint.Text.Affix

/-!
Project paths: texts of segments between slashes, compared character by character. A normal path
has no backslash and does not start at the current directory.
-/

namespace ArchLint.Path

/-- Every backslash becomes a slash. -/
def forward (cs : List Char) : List Char := cs.map fun c => if c = '\\' then '/' else c

/-- The text without the steps `./` it starts with. -/
def skipHere : List Char → List Char
  | '.' :: '/' :: cs => skipHere cs
  | cs => cs

/-- Forward slashes, and no leading step that stays where it is. -/
def normalize (path : String) : String := String.ofList (skipHere (forward path.toList))

/-- What stands between the slashes, empty texts included. -/
def segments (path : String) : List String := (path.toList.splitOn '/').map String.ofList

/-- Does the path start with a slash? -/
def isAbsolute (path : String) : Bool := path.toList.head? = some '/'

/-- The inverse of `segments`. -/
def ofSegments (parts : List String) : String := "/".intercalate parts

/-- The segment after the last slash. -/
def fileName (path : String) : String := (segments path).getLastD ""

/-- The segments that name something: neither empty nor the current directory. -/
def ordinary (path : String) : List String :=
  (segments path).filter fun s => s ≠ "" ∧ s ≠ "."

/-- The part of a file name after its last dot, unless the name starts there. -/
def extensionOf? (name : String) : Option String :=
  match Text.splitLast? '.' name.toList with
  | some (_ :: _, after) => some (String.ofList after)
  | _ => none

/-- The extension of the file a path leads to. -/
def extension? (path : String) : Option String :=
  match (ordinary path).getLast? with
  | none => none
  | some ".." => none
  | some name => extensionOf? name

end ArchLint.Path
