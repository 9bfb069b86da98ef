import ArchLint.Text.Affix
import ArchLint.Text.LetterCase

/-!
The part of a file name that carries meaning: no source extension, small letters, and without one
word at its end that only tells what the file does in its layer.
-/

namespace ArchLint.FileName

/-- Extensions of source files. -/
def sourceExtensions : List (List Char) :=
  ["ts", "tsx", "js", "jsx", "mjs", "cjs", "mts", "cts"].map String.toList

/-- Words at the end of a name that do not make two names different, in the order of trial. -/
def layerWords : List (List Char) :=
  ["usecase", "use-case", "implementation", "impl", "adapter", "repository", "controller",
    "service", "factory", "builder", "creator", "generator"].map String.toList

/-- What may stand between a name and such a word. -/
def joints : List Char := ['-', '_', '.']

/-- The name without a source extension. -/
def stem (name : List Char) : List Char :=
  match Text.splitLast? '.' name with
  | some (before, after) => if after ∈ sourceExtensions then before else name
  | none => name

/-- The name without one joint at its end. -/
def dropJoint (name : List Char) : List Char :=
  match name.getLast? with
  | some c => if c ∈ joints then name.dropLast else name
  | none => name

/-- What remains before a layer word and its joint, unless nothing does. -/
def beforeWord? (name word : List Char) : Option (List Char) :=
  match Text.dropTail? word name with
  | some rest => if dropJoint rest = [] then none else some (dropJoint rest)
  | none => none

/-- The meaningful part of a file name. -/
def core (name : List Char) : List Char :=
  let small := LetterCase.lower (stem name)
  (layerWords.findSome? (beforeWord? small)).getD small

end ArchLint.FileName
