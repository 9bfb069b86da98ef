import ArchLint.CommandLine.Options
import ArchLint.Report.Printer

/-!
What the user asks for. The options of the whole program may also stand behind a command, and are
heard there first.
-/

namespace ArchLint

/-- What a check is given. -/
structure CheckRequest where
  path : String := "."
  format : ReportFormat := .text
  /-- The grammar's path, as seen from where the program runs. -/
  grammar : Option String := none
  config : Option String := none
  deriving DecidableEq, Repr

/-- What help is about. -/
inductive HelpTopic where
  | program
  | check
  | listRules
  | init
  | help
  deriving DecidableEq, Repr

inductive Request where
  | check (r : CheckRequest)
  | listRules
  | init (overwrite : Bool)
  | help (topic : HelpTopic) (isLong : Bool)
  | version
  deriving DecidableEq, Repr

namespace ReportFormat

def name : ReportFormat → String
  | text => "text"
  | json => "json"
  | compact => "compact"

def ofName? (text : String) : Option ReportFormat :=
  [ReportFormat.text, json, compact].find? fun f => f.name = text

end ReportFormat

namespace Request

/-- A path is any text but the empty one. -/
def isPath (text : String) : Bool := text ≠ ""

def helpOption : CommandOption := { name := "help", letter := some 'h', kind := .help }

/-- The options of the whole program. -/
def commonOptions : List CommandOption :=
  [{ name := "verbose", letter := some 'v' },
    { name := "config", letter := some 'c', kind := .value isPath }, helpOption]

def programForm : CommandForm :=
  { options := { name := "version", letter := some 'V', kind := .version } :: commonOptions
    commands := ["check", "list-rules", "init", "help"] }

def checkForm : CommandForm :=
  { options := [
      { name := "format", letter := some 'f', kind := .value fun v => (ReportFormat.ofName? v).isSome },
      { name := "grammar", letter := some 'g', kind := .value isPath }] ++ commonOptions
    words := 1 }

def listRulesForm : CommandForm := { options := commonOptions }

def initForm : CommandForm := { options := { name := "force" } :: commonOptions }

/-- The request for help on commands by their names. -/
def helpOn : List String → Option Request
  | [] => some (help .program true)
  | ["check"] => some (help .check true)
  | ["list-rules"] => some (help .listRules true)
  | ["init"] => some (help .init true)
  | ["help"] => some (help .help true)
  | _ => none

/-- Reads the arguments of a command whose help is about a topic. -/
def ofCommand (form : CommandForm) (topic : HelpTopic) (make : Given → Request)
    (arguments : List String) : Option Request :=
  match form.read {} none arguments with
  | .complete given => some (make given)
  | .help isLong => some (help topic isLong)
  | .command .. => none
  | .version => none
  | .misuse => none

/-- The check that is asked for by what is given before the command and behind it. -/
def checkOf (before given : Given) : Request :=
  check {
    path := given.words.headD "."
    format := ((given.values.lookup "format").bind ReportFormat.ofName?).getD .text
    grammar := given.values.lookup "grammar"
    config := (given.values.lookup "config").or (before.values.lookup "config") }

/-- Reads the arguments of the program, unless they make no sense. -/
def ofArguments? (arguments : List String) : Option Request :=
  match programForm.read {} none arguments with
  | .command before name rest =>
    match name with
    | "check" => ofCommand checkForm .check (checkOf before) rest
    | "list-rules" => ofCommand listRulesForm .listRules (fun _ => listRules) rest
    | "init" => ofCommand initForm .init (fun g => init (g.flags.contains "force")) rest
    | _ => helpOn rest
  | .help isLong => some (help .program isLong)
  | .version => some version
  | .complete _ => none
  | .misuse => none

end Request

end ArchLint
