import ArchLint.Text.Path
import ArchLint.TypeScript.Markup
import ArchLint.TypeScript.Statement

/-!
Reading source files. The parsers of all phrases are tied together by a bound on how deep phrases
nest, which the length of the text gives.
-/

namespace ArchLint.TypeScript

/-- The parser of a phrase, given those of the phrases inside it. -/
def Phrase.parser (self : Phrases) : Phrase → Parser Unit
  | .statement => Parser.statementPhrase self
  | .block => Parser.blockPhrase self
  | .expression mode => Parser.expressionPhrase self mode
  | .assignment mode => Parser.assignmentPhrase self mode
  | .unary => Parser.unaryPhrase self
  | .arguments => Parser.argumentsPhrase self
  | .parameters => Parser.parametersPhrase self
  | .pattern => Parser.patternPhrase self
  | .type => Parser.typePhrase self
  | .objectType => Parser.objectType self
  | .classBody => Parser.classBody self
  | .template ofTypes => Parser.templatePhrase self ofTypes
  | .markup => Parser.markupPhrase self

/-- The parser of a phrase in which phrases nest at most so deep. -/
def nested : (depth : Nat) → Phrases
  | 0 => fun _ => failure
  | depth + 1 => Phrase.parser (nested depth)

/-- How deep phrases can nest in a text: a few of them start at every character. -/
def depthOf (text : List Char) : Nat := 8 * text.length + 8

/-- Is the text one of a command, so that its first line is none of the source? -/
def dropCommandLine (p : Place) : Place :=
  match p.rest with
  | '#' :: '!' :: cs => p.drop ((cs.takeWhile (· ≠ '\n')).length + 2)
  | _ => p

/-- The nodes of a file. -/
def parse (hasMarkup : Bool) (text : List Char) : List Syntax :=
  let place := (dropCommandLine { rest := text }).settle
  match Parser.file (nested (depthOf text)) { place, hasMarkup } with
  | some ((), s) => s.found.reverse
  | none => []

/-- Extensions of source files. -/
def extensions : List String := ["ts", "tsx", "mts", "cts", "js", "jsx", "mjs", "cjs"]

/-- Extensions of source files with markup. -/
def markupExtensions : List String := ["tsx", "jsx", "js", "mjs", "cjs"]

/-- Is a path that of a source file? -/
def handles (path : String) : Bool := (Path.extension? path).any (· ∈ extensions)

/-- What the file at a path imports and exports. -/
def analyze (path text : String) : FileAnalysis :=
  let hasMarkup := (Path.extension? path).any (· ∈ markupExtensions)
  let nodes := parse hasMarkup text.toList
  { imports := Syntax.moduleNames nodes, exports := Syntax.fileExports nodes }

end ArchLint.TypeScript
