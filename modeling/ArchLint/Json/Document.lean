import ArchLint.Document
import ArchLint.Json.Reader

/-!
JSON values as documents. A list may stand for a table when it has no item too many.
-/

namespace ArchLint.Json

mutual

def toDocument : Json → Document
  | null => .null
  | bool b => .bool b
  | number n => .number n.natural? n.binary64?
  | text s => .text s
  | unpaired => .foreign
  | list items => .list (toDocuments items)
  | table entries => .table (toEntries entries)

def toDocuments : List Json → List Document
  | [] => []
  | v :: vs => toDocument v :: toDocuments vs

def toEntries : List (String × Json) → List (Option String × Document)
  | [] => []
  | (k, v) :: es => (some k, toDocument v) :: toEntries es

end

def conventions : Document.Conventions :=
  { listForTable := true, surplus := false, emptyForNull := false }

/-- The document that a text holds. -/
def readDocument? (text : String) : Option Document := (ofText? text).map toDocument

end ArchLint.Json
