import ArchLint.Document
import ArchLint.Json.Basic
import ArchLint.Symbol

/-!
Symbols in documents. Read, a symbol is taken as it stands: its paths are not brought into normal
form.
-/

namespace ArchLint.Symbol

open Document

/-- The fields of a symbol, in the order in which a list gives them. -/
def fields : List String := ["path", "name", "role", "dependencies", "kind"]

def read? (c : Conventions) (d : Document) : Option Symbol := do
  let fs ← d.asFields? c fields
  return {
    path := ← fs.required? "path" asText?
    name := ← fs.required? "name" asText?
    role := ← fs.withDefault? "role" unknownRole asText?
    dependencies := ← fs.withDefault? "dependencies" [] (asListOf? asText?)
    kind := ← fs.required? "kind" (asWord? c SymbolKind.ofName?) }

def toJson (s : Symbol) : Json :=
  .table [("path", .text s.path), ("name", .text s.name), ("role", .text s.role),
    ("dependencies", .list (s.dependencies.map .text)), ("kind", .text s.kind.name)]

end ArchLint.Symbol
