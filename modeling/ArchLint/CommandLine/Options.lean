/-!
Arguments of a command. A command knows some options, each with a name and perhaps a letter; letters
can be written together behind one dash, a value follows its option or is attached to it, and what
comes behind two dashes is no option. An option is given once.
-/

namespace ArchLint

/-- What an option is for. -/
inductive OptionKind where
  | flag
  /-- The option has a value of a certain form. -/
  | value (isValid : String → Bool)
  | help
  | version

structure CommandOption where
  name : String
  letter : Option Char := none
  kind : OptionKind := .flag

/-- What a command takes. -/
structure CommandForm where
  options : List CommandOption := []
  /-- The number of words that are no options. -/
  words : Nat := 0
  /-- Commands inside the command. -/
  commands : List String := []

/-- What has been given to a command. -/
structure Given where
  flags : List String := []
  values : List (String × String) := []
  words : List String := []
  deriving DecidableEq, Repr

/-- What comes of the arguments of a command. -/
inductive ArgumentReading where
  | complete (given : Given)
  /-- A command inside the command, and its arguments. -/
  | command (given : Given) (name : String) (arguments : List String)
  /-- The user asks for help, and perhaps for all there is. -/
  | help (isLong : Bool)
  | version
  | misuse
  deriving DecidableEq, Repr

namespace Given

/-- Adds an option without a value. -/
def addFlag? (g : Given) (name : String) : Option Given :=
  if name ∈ g.flags then none else some { g with flags := name :: g.flags }

/-- Adds an option with its value. -/
def addValue? (g : Given) (name : String) (isValid : String → Bool) (value : String) :
    Option Given :=
  if isValid value ∧ (g.values.lookup name).isNone then
    some { g with values := (name, value) :: g.values }
  else none

end Given

/-- An argument by its form. -/
inductive Argument where
  | name (name : String) (value : Option String)
  | letters (letters : List Char)
  | twoDashes
  | word
  deriving DecidableEq, Repr

namespace Argument

/-- A text before its first equals sign, and behind it if there is one. -/
def splitEquals (cs : List Char) : String × Option String :=
  let (before, rest) := cs.span (· ≠ '=')
  (String.ofList before, match rest with | _ :: after => some (String.ofList after) | [] => none)

/-- A single dash is a word. -/
def ofText (text : String) : Argument :=
  match text.toList with
  | ['-', '-'] => twoDashes
  | '-' :: '-' :: cs => name (splitEquals cs).1 (splitEquals cs).2
  | '-' :: c :: cs => letters (c :: cs)
  | _ => word

end Argument

namespace CommandForm

/-- What comes of letters behind one dash. -/
inductive LetterReading where
  | complete (given : Given)
  /-- The value of the last letter is in the next argument. -/
  | awaitsValue (given : Given) (name : String) (isValid : String → Bool)
  | help
  | version
  | misuse

def readLetters (f : CommandForm) (g : Given) : List Char → LetterReading
  | [] => .complete g
  | c :: cs =>
    match f.options.find? fun o => o.letter = some c with
    | none => .misuse
    | some o =>
      match o.kind with
      | .help => .help
      | .version => .version
      | .flag =>
        match g.addFlag? o.name with
        | some g => f.readLetters g cs
        | none => .misuse
      | .value isValid =>
        match cs with
        | [] => .awaitsValue g o.name isValid
        | c :: rest =>
          let value := String.ofList (if c = '=' then rest else c :: rest)
          match g.addValue? o.name isValid value with
          | some g => .complete g
          | none => .misuse

/-- Adds a word if there is room for one that is not empty. -/
def addWord? (f : CommandForm) (g : Given) (word : String) : Option Given :=
  if word ≠ "" ∧ g.words.length < f.words then some { g with words := g.words ++ [word] } else none

/-- Reads arguments behind two dashes. -/
def readWords (f : CommandForm) (g : Given) : List String → ArgumentReading
  | [] => .complete g
  | word :: rest =>
    match f.addWord? g word with
    | some g => f.readWords g rest
    | none => .misuse

/-- Reads arguments. If an option still awaits its value, the first argument has to be that. -/
def read (f : CommandForm) (g : Given) (awaiting : Option (String × (String → Bool))) :
    List String → ArgumentReading
  | [] => if awaiting.isNone then .complete g else .misuse
  | text :: rest =>
    match awaiting, Argument.ofText text with
    | some (name, isValid), .word =>
      match g.addValue? name isValid text with
      | some g => f.read g none rest
      | none => .misuse
    | some _, _ => .misuse
    | none, .twoDashes => f.readWords g rest
    | none, .word =>
      if text ∈ f.commands then .command g text rest
      else
        match f.addWord? g text with
        | some g => f.read g none rest
        | none => .misuse
    | none, .letters cs =>
      match f.readLetters g cs with
      | .complete g => f.read g none rest
      | .awaitsValue g name isValid => f.read g (some (name, isValid)) rest
      | .help => .help false
      | .version => .version
      | .misuse => .misuse
    | none, .name name value =>
      match f.options.find? fun o => o.name = name with
      | none => .misuse
      | some o =>
        match o.kind, value with
        | .help, none => .help true
        | .version, none => .version
        | .flag, none =>
          match g.addFlag? name with
          | some g => f.read g none rest
          | none => .misuse
        | .value isValid, none => f.read g (some (name, isValid)) rest
        | .value isValid, some value =>
          match g.addValue? name isValid value with
          | some g => f.read g none rest
          | none => .misuse
        | _, some _ => .misuse

end CommandForm

end ArchLint
