import ArchLint.TypeScript.Syntax
import ArchLint.TypeScript.Token

/-!
Parsers of source text. A parser moves from token to token and notes the nodes it finds; one that
fails leaves no trace. Phrases that contain one another are parsed through a function that is given
for all of them, so that every single parser is plain.
-/

namespace ArchLint.TypeScript

/-- Where a parser is, and the nodes it has noted, the latest first. -/
structure Progress where
  place : Place
  /-- Does the language have markup? -/
  hasMarkup : Bool
  found : List Syntax := []

abbrev Parser := StateT Progress Option

/-- How an expression may be restricted by what is around it. -/
structure Mode where
  /-- The word `in` is no operator, because it belongs to a loop. -/
  noIn : Bool := false
  /-- A colon after parameters starts no type, because it belongs to a choice. -/
  noResult : Bool := false
  deriving DecidableEq, Repr

/-- The phrases that contain one another. -/
inductive Phrase where
  | statement
  | block
  | expression (mode : Mode)
  | assignment (mode : Mode)
  | unary
  | arguments
  | parameters
  | pattern
  | type
  | objectType
  | classBody
  | template (ofTypes : Bool)
  | markup
  deriving DecidableEq, Repr

/-- Parsers for all phrases. -/
abbrev Phrases := Phrase → Parser Unit

namespace Parser

/-- The token here. -/
def peek : Parser Token := fun s => some ((Token.read s.place.rest).1, s)

/-- Moves behind so many characters, and to the next token from there. -/
def advance (n : Nat) : Parser Unit := fun s =>
  some ((), { s with place := s.place.advance n })

/-- Moves behind so many characters and no further. -/
def drop (n : Nat) : Parser Unit := fun s => some ((), { s with place := s.place.drop n })

/-- Moves to the next token. -/
def settle : Parser Unit := fun s => some ((), { s with place := s.place.settle })

def rest : Parser (List Char) := fun s => some (s.place.rest, s)

def line : Parser Nat := fun s => some (s.place.line, s)

/-- Moves behind the token here. -/
def skip : Parser Unit := fun s => advance (Token.read s.place.rest).2 s

def check (b : Bool) : Parser Unit := fun s => if b then some ((), s) else none

/-- No line ends before the token here. -/
def sameLine : Parser Unit := fun s => check (!s.place.afterBreak) s

def symbol (text : String) : Parser Unit := do
  check ((← peek) = .symbol text)
  skip

/-- One of several symbols. -/
def anySymbol (texts : List String) : Parser Unit := do
  match ← peek with
  | .symbol s =>
    check (s ∈ texts)
    skip
  | _ => failure

/-- A single character, whatever symbol it starts. -/
def mark (c : Char) : Parser Unit := do
  check ((← rest).head? = some c)
  advance 1

def word (text : String) : Parser Unit := do
  check ((← peek) = .word text)
  skip

def anyWord : Parser String := do
  match ← peek with
  | .word w =>
    skip
    return w
  | _ => failure

/-- A word, but none of some. -/
def wordExcept (words : List String) : Parser String := do
  let w ← anyWord
  check (w ∉ words)
  return w

/-- A string, with its quotes. -/
def quoted : Parser (List Char) := do
  match ← peek with
  | .quoted literal =>
    skip
    return literal
  | _ => failure

/-- What `p` parses, or nothing. -/
def optional (p : Parser Unit) : Parser Unit := p <|> pure ()

/-- Would `p` succeed here? -/
def isAt {α : Type} (p : Parser α) : Parser Bool := fun s => some ((p s).isSome, s)

/-- What `p` would parse here. -/
def lookAhead {α : Type} (p : Parser α) : Parser α := fun s => (p s).map fun r => (r.1, s)

/-- `p` would succeed here. -/
def ahead {α : Type} (p : Parser α) : Parser Unit := do check (← isAt p)

/-- As many rounds of `p` as succeed and move on. -/
def repeatedly (p : Parser Unit) : (rounds : Nat) → Parser Unit
  | 0 => pure ()
  | rounds + 1 => fun s =>
    match p s with
    | some ((), t) =>
      if t.place.rest.length < s.place.rest.length then repeatedly p rounds t else some ((), t)
    | none => some ((), s)

def many (p : Parser Unit) : Parser Unit := fun s => repeatedly p s.place.rest.length s

/-- The nodes that `p` notes are set aside. -/
def within {α : Type} (p : Parser α) : Parser (α × List Syntax) := fun s =>
  match p { s with found := [] } with
  | some (a, t) => some ((a, t.found.reverse), { t with found := s.found })
  | none => none

def note (node : Syntax) : Parser Unit := fun s => some ((), { s with found := node :: s.found })

/-- Notes one node that consists of what `p` notes. -/
def grouped (p : Parser Unit) : Parser Unit := do
  let ((), parts) ← within p
  note (.other parts)

/-- Items with commas, as many as there are, between two symbols. -/
def listBetween (start stop : String) (item : Parser Unit) : Parser Unit := do
  symbol start
  many (symbol "," <|> item)
  symbol stop

/-- A word that belongs to the next name, which may be on another line. -/
def modifier (words : List String) : Parser Unit := do
  let w ← anyWord
  check (w ∈ words)
  match ← peek with
  | .word _ => pure ()
  | .number => pure ()
  | .quoted _ => pure ()
  | .symbol s => check (s ∈ ["[", "*"])
  | .finish => failure

end Parser

end ArchLint.TypeScript
