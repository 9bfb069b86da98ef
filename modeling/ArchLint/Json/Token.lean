import ArchLint.Json.Basic

/-!
The words of a JSON document. A document is cut into words first, blanks between them being
dropped; a text that holds anything else has no words at all.
-/

namespace ArchLint.Json

inductive Token where
  | openTable
  | closeTable
  | openList
  | closeList
  | colon
  | comma
  | null
  | bool (b : Bool)
  | number (n : Numeral)
  | text (s : List Char)
  | unpaired
  deriving DecidableEq, Repr

def isBlank (c : Char) : Bool := c = ' ' || c = '\n' || c = '\t' || c = '\r'

def hexDigit? (c : Char) : Option Nat :=
  if c.isDigit then some (c.toNat - 48)
  else if 'a' ≤ c ∧ c ≤ 'f' then some (c.toNat - 87)
  else if 'A' ≤ c ∧ c ≤ 'F' then some (c.toNat - 55)
  else none

/-- A unit of sixteen bits from four digits. -/
def unit? (a b c d : Char) : Option Nat := do
  let a ← hexDigit? a
  let b ← hexDigit? b
  let c ← hexDigit? c
  let d ← hexDigit? d
  return 4096 * a + 256 * b + 16 * c + d

/-- The character that a letter after a backslash stands for. -/
def simpleEscape? : Char → Option Char
  | '"' => some '"'
  | '\\' => some '\\'
  | '/' => some '/'
  | 'b' => some '\x08'
  | 'f' => some '\x0c'
  | 'n' => some '\n'
  | 'r' => some '\r'
  | 't' => some '\t'
  | _ => none

/-- A character of a string as it is written; `none` for half of a pair that stands alone. -/
abbrev Written := Option Char

/-- One character of a string and the rest, or nothing at its end or where the string is broken. -/
def stringStep? : List Char → Option (Written × List Char)
  | '\\' :: 'u' :: a :: b :: c :: d :: rest =>
    match unit? a b c d with
    | none => none
    | some n =>
      if n < 0xD800 ∨ 0xE000 ≤ n then some (some (Char.ofNat n), rest)
      else if 0xDC00 ≤ n then some (none, rest)
      else
        match rest with
        | '\\' :: 'u' :: a :: b :: c :: d :: more =>
          match unit? a b c d with
          | some m =>
            if 0xDC00 ≤ m ∧ m < 0xE000 then
              some (some (Char.ofNat (0x10000 + 1024 * (n - 0xD800) + (m - 0xDC00))), more)
            else some (none, rest)
          | none => some (none, rest)
        | _ => some (none, rest)
  | '\\' :: c :: rest => (simpleEscape? c).map fun c => (some c, rest)
  | c :: rest => if c = '"' ∨ c = '\\' ∨ c.toNat < 32 then none else some (some c, rest)
  | [] => none

/-- A string after its opening quote; `read` holds what was read, latest first. -/
def string? (read : List Written) : (fuel : Nat) → List Char → Option (List Written × List Char)
  | 0, _ => none
  | fuel + 1, cs =>
    match cs with
    | '"' :: rest => some (read.reverse, rest)
    | cs =>
      match stringStep? cs with
      | none => none
      | some (w, rest) => string? (w :: read) fuel rest

/-- The word of a string. -/
def stringToken (ws : List Written) : Token :=
  if ws.all Option.isSome then .text (ws.filterMap id) else .unpaired

/-- Digits at the head of a text. -/
def digitsOf (cs : List Char) : List Char × List Char := cs.span Char.isDigit

/-- An exponent after its letter. -/
def exponentTail? (cs : List Char) : Option ((Bool × List Char) × List Char) :=
  let (negative, cs) := match cs with
    | '-' :: cs => (true, cs)
    | '+' :: cs => (false, cs)
    | cs => (false, cs)
  match digitsOf cs with
  | ([], _) => none
  | (ds, rest) => some ((negative, ds), rest)

/-- A number without its sign. -/
def numeral? (negative : Bool) (cs : List Char) : Option (Numeral × List Char) :=
  let (whole, rest) := match cs with
    | '0' :: rest => (['0'], rest)
    | cs => digitsOf cs
  if whole.isEmpty then none
  else
    let afterPoint := match rest with
      | '.' :: rest =>
        match digitsOf rest with
        | ([], _) => none
        | (ds, rest) => some (ds, rest)
      | rest => some ([], rest)
    match afterPoint with
    | none => none
    | some (fraction, rest) =>
      match rest with
      | c :: more =>
        if c = 'e' ∨ c = 'E' then
          (exponentTail? more).map fun (e, rest) =>
            ({ negative, whole, fraction, exponent := some e }, rest)
        else some ({ negative, whole, fraction }, rest)
      | [] => some ({ negative, whole, fraction }, [])

/-- The word at the head of a text that starts with no blank. -/
def token? (cs : List Char) : Option (Token × List Char) :=
  match cs with
  | '{' :: rest => some (.openTable, rest)
  | '}' :: rest => some (.closeTable, rest)
  | '[' :: rest => some (.openList, rest)
  | ']' :: rest => some (.closeList, rest)
  | ':' :: rest => some (.colon, rest)
  | ',' :: rest => some (.comma, rest)
  | 'n' :: 'u' :: 'l' :: 'l' :: rest => some (.null, rest)
  | 't' :: 'r' :: 'u' :: 'e' :: rest => some (.bool true, rest)
  | 'f' :: 'a' :: 'l' :: 's' :: 'e' :: rest => some (.bool false, rest)
  | '"' :: rest => (string? [] (rest.length + 1) rest).map fun (ws, rest) => (stringToken ws, rest)
  | '-' :: rest => (numeral? true rest).map fun (n, rest) => (.number n, rest)
  | cs => (numeral? false cs).map fun (n, rest) => (.number n, rest)

/-- The words of a text. Every word takes a character at least. -/
def tokens? : (fuel : Nat) → List Char → Option (List Token)
  | 0, _ => none
  | fuel + 1, cs =>
    match cs.dropWhile isBlank with
    | [] => some []
    | cs =>
      match token? cs with
      | none => none
      | some (t, rest) => (tokens? fuel rest).map (t :: ·)

end ArchLint.Json
