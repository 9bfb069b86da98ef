import ArchLint.Distinct
import ArchLint.Symbol
import ArchLint.Text.Affix

/-!
The part of a source file's syntax that shows what the file imports and exports. The module names
of a file are listed in document order: a node's own name before those of the nodes inside it. The
list is made with a stack of nodes that are still to be visited.
-/

namespace ArchLint.TypeScript

/-- A declaration that a file exports, and the line of the export. -/
structure Export where
  line : Nat
  name : String
  kind : SymbolKind
  deriving DecidableEq, Repr

/-- A node of the syntax; literals are kept as they are written, with their quotes. -/
inductive Syntax where
  | importing (source : Option (List Char)) (parts : List Syntax)
  | exporting (source : Option (List Char)) (names : List Export) (parts : List Syntax)
  /-- A call, with its first argument if that is a literal. A loader is a function that imports. -/
  | call (isLoader : Bool) (argument : Option (List Char)) (parts : List Syntax)
  | other (parts : List Syntax)
  deriving Repr

/-- What a file imports, as it is written, and what it exports. -/
structure FileAnalysis where
  imports : List String := []
  exports : List Export := []
  deriving DecidableEq, Repr

def isQuote (c : Char) : Bool := c = '"' || c = '\'' || c = '\x60'

/-- A text without the quotes at both ends. -/
def unquote (literal : List Char) : List Char :=
  ((literal.dropWhile isQuote).reverse.dropWhile isQuote).reverse

/-- The module that a literal names: none if it is empty or has parts that are computed. -/
def moduleName? (literal : List Char) : Option String :=
  let text := unquote literal
  if text.isEmpty ∨ Text.occursIn ['$', '\x7b'] text then none else some (String.ofList text)

namespace Syntax

def parts : Syntax → List Syntax
  | importing _ ps => ps
  | exporting _ _ ps => ps
  | call _ _ ps => ps
  | other ps => ps

/-- The module that a node itself imports. -/
def moduleName? : Syntax → Option String
  | importing source _ => source.bind TypeScript.moduleName?
  | exporting source _ _ => source.bind TypeScript.moduleName?
  | call isLoader argument _ => if isLoader then argument.bind TypeScript.moduleName? else none
  | other _ => none

/-- The exports that a node makes when it stands at the top of a file. -/
def exports : Syntax → List Export
  | exporting _ names _ => names
  | _ => []

mutual

/-- The number of nodes. -/
def size : Syntax → Nat
  | importing _ ps => sizes ps + 1
  | exporting _ _ ps => sizes ps + 1
  | call _ _ ps => sizes ps + 1
  | other ps => sizes ps + 1

/-- The number of nodes of several trees. -/
def sizes : List Syntax → Nat
  | [] => 0
  | s :: ss => size s + sizes ss

end

theorem sizes_append (ss ts : List Syntax) : sizes (ss ++ ts) = sizes ss + sizes ts := by
  induction ss with
  | nil => simp [sizes]
  | cons s ss ih => simp only [List.cons_append, sizes, ih]; omega

theorem size_eq (s : Syntax) : s.size = sizes s.parts + 1 := by
  cases s <;> rfl

/-- Visits the node on top of the stack, then those that it consists of, then the rest of the
stack. -/
def walk : (stack : List Syntax) → List String
  | [] => []
  | s :: stack => s.moduleName?.toList ++ walk (s.parts ++ stack)
termination_by stack => sizes stack
decreasing_by
  rw [sizes_append, sizes, size_eq]
  omega

/-- The modules that a file imports, in document order. -/
def moduleNames (file : List Syntax) : List String := walk file

/-- The exports of a file, the first of each name. -/
def fileExports (file : List Syntax) : List Export := distinctBy Export.name (file.flatMap exports)

end Syntax

end ArchLint.TypeScript
