/-!
The smallest parts of a TOML document: blanks, line breaks, comments and the four kinds of strings.
A reader gives what it has read and the rest of the text.
-/

namespace ArchLint.Toml

/-- What a reader has read, and the rest. -/
abbrev Read (α : Type) := Option (α × List Char)

/-- Characters that may stand in a comment: none that controls, but tabs. -/
def isVisible (c : Char) : Bool := c = '\t' || (' ' ≤ c && c ≠ '\x7f')

def isBlank (c : Char) : Bool := c = ' ' || c = '\t'

def skipBlank (cs : List Char) : List Char := cs.dropWhile isBlank

/-- The rest after a line break. -/
def lineBreak? : List Char → Option (List Char)
  | '\n' :: cs => some cs
  | '\r' :: '\n' :: cs => some cs
  | _ => none

/-- Blanks and line breaks. -/
def skipBlankLines : List Char → List Char
  | ' ' :: cs => skipBlankLines cs
  | '\t' :: cs => skipBlankLines cs
  | '\n' :: cs => skipBlankLines cs
  | '\r' :: '\n' :: cs => skipBlankLines cs
  | cs => cs

/-- The rest after a comment, which reaches to the end of its line. -/
def skipComment (cs : List Char) : List Char :=
  match cs with
  | '#' :: cs => cs.dropWhile isVisible
  | cs => cs

/-- Blanks, line breaks and comments; every round takes a comment. -/
def skipSpace : (fuel : Nat) → List Char → List Char
  | 0, cs => cs
  | fuel + 1, cs =>
    match skipBlankLines cs with
    | '#' :: cs => skipSpace fuel (cs.dropWhile isVisible)
    | cs => cs

/-- What may follow at the end of a line: blanks, a comment and the line break. -/
def endOfLine? (cs : List Char) : Option (List Char) :=
  match skipComment (skipBlank cs) with
  | [] => some []
  | cs => lineBreak? cs

def hexDigit? (c : Char) : Option Nat :=
  if c.isDigit then some (c.toNat - 48)
  else if 'a' ≤ c ∧ c ≤ 'f' then some (c.toNat - 87)
  else if 'A' ≤ c ∧ c ≤ 'F' then some (c.toNat - 55)
  else none

/-- The character whose number is written with so many digits. -/
def codePoint? (digits : Nat) (cs : List Char) : Read Char :=
  let ds := cs.take digits
  if ds.length < digits then none
  else
    match ds.foldl (fun n c => do return 16 * (← n) + (← hexDigit? c)) (some 0) with
    | some n => if n.isValidChar then some (Char.ofNat n, cs.drop digits) else none
    | none => none

/-- The character that is written after a backslash. -/
def escape? : List Char → Read Char
  | 'b' :: cs => some ('\x08', cs)
  | 't' :: cs => some ('\t', cs)
  | 'n' :: cs => some ('\n', cs)
  | 'f' :: cs => some ('\x0c', cs)
  | 'r' :: cs => some ('\r', cs)
  | '"' :: cs => some ('"', cs)
  | '\\' :: cs => some ('\\', cs)
  | 'u' :: cs => codePoint? 4 cs
  | 'U' :: cs => codePoint? 8 cs
  | _ => none

/-- A character that stands for itself. -/
def plain? : List Char → Read Char
  | c :: cs => if isVisible c then some (c, cs) else none
  | [] => none

/-- A string after its opening quote; `read` holds what was read, latest first. -/
def basic? (read : List Char) : (fuel : Nat) → List Char → Read (List Char)
  | 0, _ => none
  | fuel + 1, cs =>
    match cs with
    | '"' :: cs => some (read.reverse, cs)
    | '\\' :: cs => (escape? cs).bind fun (c, cs) => basic? (c :: read) fuel cs
    | cs => (plain? cs).bind fun (c, cs) => basic? (c :: read) fuel cs

/-- A string without escapes, up to its closing quote. -/
def literal? (cs : List Char) : Read (List Char) :=
  match cs.span fun c => isVisible c && c ≠ '\'' with
  | (text, '\'' :: rest) => some (text, rest)
  | _ => none

/-- Up to two further quotes after the three that close a string belong to the string. -/
def closing (quote : Char) (read cs : List Char) : List Char × List Char :=
  match cs with
  | a :: b :: rest =>
    if a = quote then
      if b = quote then ((quote :: quote :: read).reverse, rest)
      else ((quote :: read).reverse, b :: rest)
    else (read.reverse, cs)
  | [a] => if a = quote then ((quote :: read).reverse, []) else (read.reverse, cs)
  | [] => (read.reverse, [])

/-- A string of several lines after its three opening quotes. A backslash at the end of a line
drops all blanks up to the next character. -/
def multiBasic? (read : List Char) : (fuel : Nat) → List Char → Read (List Char)
  | 0, _ => none
  | fuel + 1, cs =>
    match cs with
    | '"' :: '"' :: '"' :: cs => some (closing '"' read cs)
    | '\\' :: cs =>
      match lineBreak? (skipBlank cs) with
      | some cs => multiBasic? read fuel (skipBlankLines cs)
      | none => (escape? cs).bind fun (c, cs) => multiBasic? (c :: read) fuel cs
    | cs =>
      match lineBreak? cs with
      | some cs => multiBasic? ('\n' :: read) fuel cs
      | none => (plain? cs).bind fun (c, cs) => multiBasic? (c :: read) fuel cs

/-- A string of several lines without escapes. -/
def multiLiteral? (read : List Char) : (fuel : Nat) → List Char → Read (List Char)
  | 0, _ => none
  | fuel + 1, cs =>
    match cs with
    | '\'' :: '\'' :: '\'' :: cs => some (closing '\'' read cs)
    | cs =>
      match lineBreak? cs with
      | some cs => multiLiteral? ('\n' :: read) fuel cs
      | none => (plain? cs).bind fun (c, cs) => multiLiteral? (c :: read) fuel cs

/-- The text without a line break at its head. -/
def dropLineBreak (cs : List Char) : List Char := (lineBreak? cs).getD cs

/-- A string on one line. -/
def lineString? : List Char → Read (List Char)
  | '"' :: cs => basic? [] (cs.length + 1) cs
  | '\'' :: cs => literal? cs
  | _ => none

/-- A string of any kind. -/
def string? : List Char → Read (List Char)
  | '"' :: '"' :: '"' :: cs => multiBasic? [] (cs.length + 1) (dropLineBreak cs)
  | '\'' :: '\'' :: '\'' :: cs => multiLiteral? [] (cs.length + 1) (dropLineBreak cs)
  | cs => lineString? cs

end ArchLint.Toml
