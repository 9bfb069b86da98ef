import ArchLint.CommandLine.Request

/-!
What the program says about itself: how it is used, its version, and the kinds of rules it knows.
-/

namespace ArchLint

/-- Joins lines, each with its end. -/
def ofLines (lines : List String) : String := String.join (lines.map (· ++ "\n"))

def versionText : String := "archgram 0.1.0\n"

namespace HelpTopic

def programLines : List String :=
  ["CLI tool for archgram grammar-driven architecture checks",
    "",
    "Usage: archgram [OPTIONS] <COMMAND>",
    "",
    "Commands:",
    "  check       Check a project against its grammar",
    "  list-rules  List supported rule kinds",
    "  init        Write a starter grammar and configuration",
    "  help        Print this message or the help of the given subcommand(s)",
    "",
    "Options:",
    "  -v, --verbose          Enable verbose output",
    "  -c, --config <CONFIG>  Path to configuration file",
    "  -h, --help             Print help",
    "  -V, --version          Print version"]

def checkLines : List String :=
  ["Check a project against its grammar",
    "",
    "Usage: archgram check [OPTIONS] [PATH]",
    "",
    "Arguments:",
    "  [PATH]  Project to analyze (default: current directory) [default: .]",
    "",
    "Options:",
    "  -f, --format <FORMAT>    Output format [default: text] [possible values: text, json, compact]",
    "  -v, --verbose            Enable verbose output",
    "  -c, --config <CONFIG>    Path to configuration file",
    "  -g, --grammar <GRAMMAR>  Grammar file (default: discovered in the project)",
    "  -h, --help               Print help (see more with '--help')"]

def longCheckLines : List String :=
  ["Check a project against its grammar",
    "",
    "Usage: archgram check [OPTIONS] [PATH]",
    "",
    "Arguments:",
    "  [PATH]",
    "          Project to analyze (default: current directory)",
    "          ",
    "          [default: .]",
    "",
    "Options:",
    "  -f, --format <FORMAT>",
    "          Output format",
    "          ",
    "          [default: text]",
    "",
    "          Possible values:",
    "          - text:    Human-readable text output",
    "          - json:    JSON output",
    "          - compact: One-line-per-violation compact format",
    "",
    "  -v, --verbose",
    "          Enable verbose output",
    "",
    "  -c, --config <CONFIG>",
    "          Path to configuration file",
    "",
    "  -g, --grammar <GRAMMAR>",
    "          Grammar file (default: discovered in the project)",
    "",
    "  -h, --help",
    "          Print help (see a summary with '-h')"]

def listRulesLines : List String :=
  ["List supported rule kinds",
    "",
    "Usage: archgram list-rules [OPTIONS]",
    "",
    "Options:",
    "  -v, --verbose          Enable verbose output",
    "  -c, --config <CONFIG>  Path to configuration file",
    "  -h, --help             Print help"]

def initLines : List String :=
  ["Write a starter grammar and configuration",
    "",
    "Usage: archgram init [OPTIONS]",
    "",
    "Options:",
    "      --force            Overwrite existing files",
    "  -v, --verbose          Enable verbose output",
    "  -c, --config <CONFIG>  Path to configuration file",
    "  -h, --help             Print help"]

def helpLines : List String :=
  ["Print this message or the help of the given subcommand(s)",
    "",
    "Usage: archgram help [COMMAND]...",
    "",
    "Arguments:",
    "  [COMMAND]...  Print help for the subcommand(s)"]

/-- The help on a topic. Only a check has more to say at length. -/
def text (isLong : Bool) : HelpTopic → String
  | program => ofLines programLines
  | check => ofLines (if isLong then longCheckLines else checkLines)
  | listRules => ofLines listRulesLines
  | init => ofLines initLines
  | help => ofLines helpLines

end HelpTopic

/-- A kind of rule, who checks it, and what it is for. -/
structure RuleKindNote where
  word : String
  family : String
  purpose : String
  deriving DecidableEq, Repr

namespace RuleKindNote

def all : List RuleKindNote :=
  [⟨"naming_pattern", "naming", "paths of a role must match a regex"⟩,
    ⟨"forbidden", "dependency",
      "role A must not import role B (or \x60to: \x7b circular: true \x7d\x60)"⟩,
    ⟨"required", "dependency", "role A must import at least one file of role B"⟩,
    ⟨"allowed", "dependency", "documents a permitted A -> B edge; never reported"⟩,
    ⟨"find_synonyms", "hygiene", "flags near-identical file names (Jaro-Winkler)"⟩,
    ⟨"detect_unreferenced", "hygiene", "flags symbols nothing imports"⟩,
    ⟨"file_size", "file-metrics", "caps the line count of a file"⟩,
    ⟨"test_coverage", "file-metrics", "requires a sibling or parallel test file"⟩,
    ⟨"forbidden_keywords", "code-pattern", "bans literal substrings in file content"⟩,
    ⟨"required_structure", "structure", "directories that must exist"⟩,
    ⟨"documentation_required", "file-metrics", "long files need a /** doc comment"⟩,
    ⟨"class_complexity", "file-metrics", "caps public methods and properties"⟩,
    ⟨"minimum_test_ratio", "structure", "minimum test/production file ratio"⟩,
    ⟨"granularity_metric", "file-metrics", "caps the average file length"⟩,
    ⟨"forbidden_patterns", "code-pattern", "bans regex matches in file content"⟩,
    ⟨"barrel_purity", "code-pattern", "barrel files may only re-export"⟩]

/-- A text made as long as a column is wide. -/
def pad (width : Nat) (text : String) : String :=
  text ++ String.ofList (List.replicate (width - text.length) ' ')

/-- A row of the table of kinds. -/
def row (n : RuleKindNote) : String :=
  pad 24 n.word ++ " " ++ pad 14 n.family ++ " " ++ n.purpose

/-- All kinds of rules in a table. -/
def table : String :=
  ofLines <|
    ["Supported rule kinds:",
      "",
      row ⟨"Kind", "Validator", "Description"⟩,
      String.ofList (List.replicate 80 '-')] ++ all.map row ++
    ["",
      "Roles are matched with \x60role: NAME\x60, \x60role: [A, B]\x60 or \x60role: ALL\x60.",
      "Run \x60archgram init\x60 to write a starter grammar."]

end RuleKindNote

end ArchLint
