import ArchLint.Json.Document
import ArchLint.Text.Path
import ArchLint.Toml.Reader
import ArchLint.Yaml.Document

/-!
The formats of documents. The extension of a file tells its format, and YAML is what a file is in
that tells nothing.
-/

namespace ArchLint

inductive DocumentFormat where
  | yaml
  | toml
  | json
  deriving DecidableEq, Repr

namespace DocumentFormat

/-- The format of a file. -/
def ofPath (path : String) : DocumentFormat :=
  match Path.extension? path with
  | some "toml" => toml
  | some "json" => json
  | _ => yaml

/-- What the format allows in place of a table. -/
def conventions : DocumentFormat → Document.Conventions
  | yaml => Yaml.conventions
  | toml => Toml.conventions
  | json => Json.conventions

/-- The document that a text holds. -/
def readDocument? : DocumentFormat → String → Option Document
  | yaml, text => Yaml.readDocument? text
  | toml, text => Toml.readDocument? text
  | json, text => Json.readDocument? text

end DocumentFormat

end ArchLint
