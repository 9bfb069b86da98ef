import ArchLint.Distinct
import ArchLint.Text.Path

/-!
What a project declares. A symbol is one exported declaration of a file, or stands for a whole
file that exports nothing; the files it depends on are listed once each, in normal form and in the
order in which they were first mentioned.
-/

namespace ArchLint

/-- What kind of declaration a symbol is. -/
inductive SymbolKind where
  | classDecl
  | interfaceDecl
  | functionDecl
  | typeDecl
  | constDecl
  | wholeFile
  deriving DecidableEq, Repr

namespace SymbolKind

/-- The word for a kind in documents and messages. -/
def name : SymbolKind → String
  | classDecl => "class"
  | interfaceDecl => "interface"
  | functionDecl => "function"
  | typeDecl => "type"
  | constDecl => "const"
  | wholeFile => "file"

/-- Kinds are read exactly as they are written. -/
def ofName? (text : String) : Option SymbolKind :=
  [classDecl, interfaceDecl, functionDecl, typeDecl, constDecl, wholeFile].find? fun k =>
    k.name = text

end SymbolKind

/-- The role of a file that no role definition claims. -/
def unknownRole : String := "UNKNOWN"

/-- One declaration of a file, with the role of the file and the files it depends on. -/
structure Symbol where
  path : String
  name : String
  role : String := unknownRole
  dependencies : List String := []
  kind : SymbolKind
  deriving DecidableEq, Repr

namespace Symbol

/-- A symbol at a path in normal form. -/
def declare (path name : String) (kind : SymbolKind) : Symbol :=
  { path := Path.normalize path, name, kind }

/-- Adds one dependency in normal form, unless it is listed. -/
def dependOn (s : Symbol) (path : String) : Symbol :=
  if Path.normalize path ∈ s.dependencies then s
  else { s with dependencies := s.dependencies ++ [Path.normalize path] }

/-- Adds dependencies one after the other. -/
def dependingOn (s : Symbol) (paths : List String) : Symbol := paths.foldl dependOn s

/-- The last segment of the symbol's path. -/
def fileName (s : Symbol) : String := Path.fileName s.path

end Symbol

/-- The first symbol of each path. -/
def firstPerFile (symbols : List Symbol) : List Symbol := distinctBy Symbol.path symbols

end ArchLint
