import ArchLint.Config
import ArchLint.Document.Format
import ArchLint.Files.View
import ArchLint.Grammar.Load

/-!
Grammars from texts. A text is read as a document of its format, the document as a draft, and the
draft is checked and loaded.
-/

namespace ArchLint

/-- Why there is no grammar. -/
inductive GrammarError where
  | notFound
  | unreadable (cause : ReadError)
  | malformed (format : DocumentFormat)
  | invalid (cause : LoadError)
  deriving DecidableEq, Repr

namespace Grammar

/-- The grammar of a document. -/
def ofDocument (format : DocumentFormat) (d : Document) : Except GrammarError Grammar :=
  match Draft.Grammar.read? format.conventions d with
  | none => .error (.malformed format)
  | some draft =>
    match draft.load with
    | .ok grammar => .ok grammar
    | .error cause => .error (.invalid cause)

/-- The grammar that a text holds. -/
def ofText (format : DocumentFormat) (text : String) : Except GrammarError Grammar :=
  match format.readDocument? text with
  | none => .error (.malformed format)
  | some d => ofDocument format d

end Grammar

/-- The configuration that a text holds. -/
def Config.ofText? (text : String) : Option Config :=
  (DocumentFormat.toml.readDocument? text).bind (Config.read? DocumentFormat.toml.conventions)

end ArchLint
