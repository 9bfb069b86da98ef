import ArchLint.Json.Basic

/-!
Writing values, one item to a line and two blanks for every level. Quotes, backslashes and control
characters of a string are escaped; all else is written as it is.
-/

/-- A number as it is written. -/
def ArchLint.Numeral.written (n : Numeral) : List Char :=
  (if n.negative then ['-'] else []) ++ n.whole ++
    (if n.fraction.isEmpty then [] else '.' :: n.fraction) ++
    (match n.exponent with
      | none => []
      | some (negative, ds) => 'e' :: (if negative then '-' :: ds else ds))

namespace ArchLint.Json

def hexChar (n : Nat) : Char := "0123456789abcdef".toList.getD n '0'

/-- How a character of a string is written. -/
def escaped (c : Char) : List Char :=
  if c = '"' then ['\\', '"']
  else if c = '\\' then ['\\', '\\']
  else if c = '\x08' then ['\\', 'b']
  else if c = '\x0c' then ['\\', 'f']
  else if c = '\n' then ['\\', 'n']
  else if c = '\r' then ['\\', 'r']
  else if c = '\t' then ['\\', 't']
  else if c.toNat < 32 then ['\\', 'u', '0', '0', hexChar (c.toNat / 16), hexChar (c.toNat % 16)]
  else [c]

def quoted (s : String) : List Char := '"' :: s.toList.flatMap escaped ++ ['"']

/-- The start of a line at a level. -/
def newline (level : Nat) : List Char := '\n' :: List.replicate (2 * level) ' '

mutual

/-- A value at a level. -/
def pretty (level : Nat) : Json → List Char
  | null => "null".toList
  | bool b => (if b then "true" else "false").toList
  | number n => n.written
  | text s => quoted s
  | unpaired => "\"\\ud800\"".toList
  | list [] => ['[', ']']
  | list (v :: vs) =>
    '[' :: newline (level + 1) ++ pretty (level + 1) v ++ prettyItems (level + 1) vs ++
      newline level ++ [']']
  | table [] => ['\x7b', '\x7d']
  | table ((k, v) :: es) =>
    '\x7b' :: newline (level + 1) ++ quoted k ++ [':', ' '] ++ pretty (level + 1) v ++
      prettyEntries (level + 1) es ++ newline level ++ ['\x7d']

/-- Further items of a list. -/
def prettyItems (level : Nat) : List Json → List Char
  | [] => []
  | v :: vs => ',' :: newline level ++ pretty level v ++ prettyItems level vs

/-- Further entries of a table. -/
def prettyEntries (level : Nat) : List (String × Json) → List Char
  | [] => []
  | (k, v) :: es =>
    ',' :: newline level ++ quoted k ++ [':', ' '] ++ pretty level v ++ prettyEntries level es

end

/-- The text of a document. -/
def render (v : Json) : String := String.ofList (pretty 0 v)

end ArchLint.Json
