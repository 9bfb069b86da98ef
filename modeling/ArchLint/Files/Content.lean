import ArchLint.Files.View
import ArchLint.Text.Affix

/-!
What a file holds: a text, or bytes that are the UTF-8 form of none.
-/

namespace ArchLint

inductive Content where
  | text (text : String)
  /-- Bytes that are not the form of a text. -/
  | binary (bytes : List UInt8)
  deriving DecidableEq, Repr

namespace Content

/-- The text that has the given form. -/
def decode? (bytes : List UInt8) : Option String := String.fromUTF8? ⟨bytes.toArray⟩

/-- Bytes are kept as the text whose form they are. -/
def ofBytes (bytes : List UInt8) : Content :=
  match decode? bytes with
  | some t => text t
  | none => binary bytes

/-- Only text can be read. -/
def read : Content → Except ReadError String
  | text t => .ok t
  | binary _ => .error .notText

/-- A line without the carriage return at its end. -/
def withoutReturn (line : List Char) : List Char := (Text.dropTail? ['\r'] line).getD line

/-- The lines before the first one that is no text. -/
def lines : Content → List (List Char)
  | text t => (t.toList.splitOn '\n').map withoutReturn
  | binary bytes =>
    (((bytes.splitOn 10).map decode?).takeWhile Option.isSome).reduceOption.map fun t =>
      withoutReturn t.toList

end Content

end ArchLint
