import ArchLint.CommandLine.Starter
import ArchLint.Project

/-!
What the program does with its arguments: what it prints, which files it writes, and how it ends.
A failure prints nothing to the output, and its cause is a complaint.
-/

namespace ArchLint

/-- Where the program runs. -/
structure Surroundings where
  /-- The folder the program runs in. -/
  here : Workplace
  /-- The folder of the user's own configuration. -/
  personal : Option Workplace := none
  /-- Does the output show colors? -/
  colored : Bool := false

/-- How a run ends. -/
inductive ExitCode where
  | success
  /-- The run failed, or a check found an error. -/
  | failure
  /-- The arguments make no sense. -/
  | misuse
  deriving DecidableEq, Repr

def ExitCode.number : ExitCode → Nat
  | success => 0
  | failure => 1
  | misuse => 2

/-- What comes of a run. -/
structure Outcome where
  exit : ExitCode
  output : String := ""
  /-- What is said to the user but is not output. -/
  complaint : String := ""
  /-- Files to be written, by their paths from where the program runs. -/
  written : List (String × String) := []
  deriving DecidableEq, Repr

namespace Outcome

def failed (complaint : String) : Outcome := { exit := .failure, complaint }

def printed (text : String) : Outcome := { exit := .success, output := text }

/-- A folder after the files are written. -/
def apply (o : Outcome) (w : Workplace) : Workplace :=
  o.written.foldl (fun w f => w.write f.1 (.text f.2)) w

end Outcome

namespace Surroundings

/-- The names of a configuration in a project. -/
def projectConfigs : List String := ["archgram.toml", ".archgram.toml"]

/-- The name of the user's own configuration. -/
def personalConfig : String := "config.toml"

/-- The configuration in a file. -/
def readConfig? (w : Workplace) (path : String) : Option Config :=
  (w.view.text? path).bind Config.ofText?

/-- The configuration of a check: the one that is asked for, the project's, the user's, or what
holds without any. -/
def config? (s : Surroundings) (project : Workplace) (given : Option String) : Option Config :=
  match given with
  | some path => readConfig? s.here path
  | none =>
    match projectConfigs.find? project.isFile with
    | some name => readConfig? project name
    | none =>
      match s.personal.filter fun w => w.isFile personalConfig with
      | some w => readConfig? w personalConfig
      | none => some {}

/-- What is said of a project that cannot be checked. -/
def complaintOf : ProjectError → String
  | .grammar _ => "Failed to load grammar"
  | .unlisted => "Analysis failed"

/-- Checks a project. -/
def check (s : Surroundings) (r : CheckRequest) : Outcome :=
  let project := s.here.within r.path
  match s.config? project r.config with
  | none => .failed "Failed to load config"
  | some config =>
    let grammar := match r.grammar with
      | some path => Project.readGrammar s.here path
      | none => Project.loadGrammar project config
    match Project.check project config grammar with
    | .error cause => .failed (complaintOf cause)
    | .ok (_, report) =>
      { exit := if report.hasErrors then .failure else .success
        output := report.print r.format s.colored }

/-- Can a file be written at the path: is there no folder in its place? -/
def isFree (s : Surroundings) (path : String) : Bool :=
  !s.here.isThere path || s.here.isFile path

/-- Writes the files a project starts with. Without leave to overwrite nothing is done if one of them
is there, and a folder in the place of one ends the writing. -/
def init (s : Surroundings) (overwrite : Bool) : Outcome :=
  match Starter.files.find? fun f => s.here.isThere f.1 && !overwrite with
  | some f => .failed (f.1 ++ " already exists. Use --force to overwrite.")
  | none =>
    match Starter.files.span fun f => s.isFree f.1 with
    | (written, []) => { exit := .success, output := Starter.message, written }
    | (written, f :: _) => { Outcome.failed ("Failed to write " ++ f.1) with written }

/-- Does what is asked for. -/
def answer (s : Surroundings) : Request → Outcome
  | .check r => s.check r
  | .listRules => .printed RuleKindNote.table
  | .init overwrite => s.init overwrite
  | .help topic isLong => .printed (topic.text isLong)
  | .version => .printed versionText

/-- Runs the program. -/
def run (s : Surroundings) (arguments : List String) : Outcome :=
  match Request.ofArguments? arguments with
  | some r => s.answer r
  | none => { exit := .misuse, complaint := "Unknown arguments. Try --help." }

end Surroundings

end ArchLint
