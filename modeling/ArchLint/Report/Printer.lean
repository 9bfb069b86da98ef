import ArchLint.Json.Printer
import ArchLint.Report.Document

/-!
Reports as they are printed: a paragraph for each violation and a summary, a line for each
violation, or a document. The parts that carry a weight may be painted in its color.
-/

namespace ArchLint

/-- How a report is printed. -/
inductive ReportFormat where
  | text
  | json
  | compact
  deriving DecidableEq, Repr

/-- A color of the terminal. -/
inductive Color where
  | red
  | green
  | yellow
  | blue
  deriving DecidableEq, Repr

namespace Color

/-- The number that selects the color. -/
def code : Color → String
  | red => "31"
  | green => "32"
  | yellow => "33"
  | blue => "34"

/-- A text in a color, and plain after it. -/
def paint (c : Color) (text : String) : String := "\x1b[" ++ c.code ++ "m" ++ text ++ "\x1b[0m"

end Color

/-- Paints a text if the output shows colors. -/
def paintIf (colored : Bool) (c : Color) (text : String) : String :=
  if colored then c.paint text else text

def Severity.color : Severity → Color
  | error => .red
  | warning => .yellow
  | info => .blue

namespace Violation

/-- The line about both roles of a dependency. -/
def rolesLine (v : Violation) : String :=
  match v.sourceRole, v.targetRole with
  | some source, some target => "  = roles: " ++ source ++ " -> " ++ target ++ "\n"
  | _, _ => ""

def dependencyLine (v : Violation) : String :=
  match v.dependency with
  | some d => "  = dependency: " ++ d ++ "\n"
  | none => ""

/-- The lines about a violation, with an empty one at their end. -/
def paragraph (colored : Bool) (v : Violation) : String :=
  v.ruleName ++ " at " ++ v.file ++ "\n  " ++ paintIf colored v.severity.color v.severity.name ++
    ": " ++ v.message ++ "\n" ++ v.rolesLine ++ v.dependencyLine ++ "\n"

end Violation

namespace Report

/-- What remains to be said after the violations. -/
def summary (r : Report) : String :=
  "Found " ++ toString (r.count .error) ++ " error(s), " ++ toString (r.count .warning) ++
    " warning(s), " ++ toString (r.count .info) ++ " info(s) in " ++ toString r.filesChecked ++
    " file(s) (" ++ toString r.symbolsChecked ++ " symbols)"

/-- The color of the gravest weight that occurs; notes do not count. -/
def summaryColor (r : Report) : Color :=
  if 0 < r.count .error then .red else if 0 < r.count .warning then .yellow else .green

/-- All paragraphs and the summary. -/
def toText (colored : Bool) (r : Report) : String :=
  String.join (r.violations.map (Violation.paragraph colored)) ++
    paintIf colored r.summaryColor r.summary ++ "\n"

/-- A line for each violation and nothing else. -/
def toLines (r : Report) : String := String.join (r.violations.map fun v => v.line ++ "\n")

/-- The report as a document. -/
def toDocumentText (r : Report) : String := r.toJson.render ++ "\n"

/-- The report in a format. -/
def print (r : Report) (format : ReportFormat) (colored : Bool) : String :=
  match format with
  | .text => r.toText colored
  | .json => r.toDocumentText
  | .compact => r.toLines

end Report

end ArchLint
