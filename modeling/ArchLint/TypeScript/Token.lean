/-!
The tokens of TypeScript, and what may stand between them. A token is read at its first character;
strings keep their quotes, and of several symbols the longest is meant.
-/

namespace ArchLint.TypeScript

inductive Token where
  | finish
  | word (text : String)
  | number
  | quoted (literal : List Char)
  | symbol (text : String)
  deriving DecidableEq, Repr

def isSpace (c : Char) : Bool :=
  c = ' ' || ('\t' ≤ c && c ≤ '\r') || c = '\u00a0' || c = '\u1680' ||
    ('\u2000' ≤ c && c ≤ '\u200b') || c = '\u2028' || c = '\u2029' || c = '\u202f' ||
    c = '\u205f' || c = '\u2060' || c = '\u3000' || c = '\ufeff'

/-- Characters of ASCII that are no part of a word. -/
def marks : List Char :=
  [';', ':', '"', '\'', '\x60', '@', '#', '.', ',', '|', '^', '&', '<', '=', '>', '+', '-', '*',
    '/', '\\', '%', '?', '!', '~', '(', ')', '[', ']', '\x7b', '\x7d', '\x7f']

def isWordChar (c : Char) : Bool := ' ' < c && !isSpace c && c ∉ marks

/-- The number of characters of the word at the head of a text. -/
def wordLength : List Char → Nat
  | '\\' :: 'u' :: cs => wordLength cs + 2
  | c :: cs => if isWordChar c then wordLength cs + 1 else 0
  | [] => 0

def symbols : List (List Char) :=
  [">>>=", "...", "===", "!==", "**=", "<<=", ">>=", ">>>", "&&=", "||=", "??=", "=>", "==", "!=",
    "<=", ">=", "&&", "||", "??", "?.", "++", "--", "+=", "-=", "*=", "/=", "%=", "&=", "|=", "^=",
    "<<", ">>", "**"].map String.toList

/-- The symbol at the head of a text; a question mark is one of its own before a fraction. -/
def symbolOf (cs : List Char) : List Char :=
  match cs with
  | '?' :: '.' :: d :: _ => if d.isDigit then ['?'] else ['?', '.']
  | cs =>
    match symbols.find? fun s => s.isPrefixOf cs with
    | some s => s
    | none => cs.take 1

/-- The number of characters of a string, from its opening quote to its closing one. -/
def quotedLength (quote : Char) : List Char → Nat
  | '\\' :: _ :: cs => quotedLength quote cs + 2
  | c :: cs => if c = quote then 1 else quotedLength quote cs + 1
  | [] => 0

def isDigits (c : Char) : Bool := c.isDigit || c = '_'

/-- The exponent at the head of a text, if there is one. -/
def exponentLength (cs : List Char) : Nat :=
  match cs with
  | e :: sign :: d :: rest =>
    if e ≠ 'e' ∧ e ≠ 'E' then 0
    else if (sign = '+' ∨ sign = '-') ∧ d.isDigit then 3 + (rest.takeWhile isDigits).length
    else if sign.isDigit then 1 + ((sign :: d :: rest).takeWhile isDigits).length
    else 0
  | [e, d] => if (e = 'e' ∨ e = 'E') ∧ d.isDigit then 2 else 0
  | _ => 0

/-- The number of characters of a number. -/
def numberLength (cs : List Char) : Nat :=
  match cs with
  | '0' :: base :: rest =>
    if base ∈ ['x', 'X', 'o', 'O', 'b', 'B'] then 2 + (rest.takeWhile isWordChar).length
    else decimalLength cs
  | cs => decimalLength cs
where
  decimalLength (cs : List Char) : Nat :=
    let whole := (cs.takeWhile isDigits).length
    let rest := cs.drop whole
    let fraction := match rest with
      | '.' :: rest => 1 + (rest.takeWhile isDigits).length
      | _ => 0
    let rest := rest.drop fraction
    let power := exponentLength rest
    let suffix := if (rest.drop power).head? = some 'n' then 1 else 0
    whole + fraction + power + suffix

/-- Does a number start here? -/
def startsNumber : List Char → Bool
  | '.' :: d :: _ => d.isDigit
  | d :: _ => d.isDigit
  | [] => false

/-- The token at the head of a text, and how many characters it takes. -/
def Token.read (cs : List Char) : Token × Nat :=
  match cs with
  | [] => (.finish, 0)
  | c :: rest =>
    if startsNumber cs then (.number, numberLength cs)
    else if c = '"' ∨ c = '\'' then
      let n := quotedLength c rest + 1
      (.quoted (cs.take n), n)
    else if c = '#' ∧ 0 < wordLength rest then
      let n := wordLength rest + 1
      (.word (String.ofList (cs.take n)), n)
    else
      let n := wordLength cs
      if 0 < n then (.word (String.ofList (cs.take n)), n)
      else
        let s := symbolOf cs
        (.symbol (String.ofList s), s.length)

/-- A place in a text, and what was passed right before it. -/
structure Place where
  rest : List Char
  line : Nat := 1
  /-- Was a line break passed? -/
  afterBreak : Bool := false
  /-- Was a comment passed? -/
  afterComment : Bool := false
  deriving Repr

namespace Place

/-- The place behind so many characters. -/
def drop (n : Nat) (p : Place) : Place :=
  { rest := p.rest.drop n, line := p.line + (p.rest.take n).count '\n' }

/-- The number of characters of a comment after its first two. -/
def commentLength : List Char → Nat
  | '*' :: '/' :: _ => 2
  | _ :: cs => commentLength cs + 1
  | [] => 0

/-- The place behind a comment of so many characters. -/
def passComment (n : Nat) (p : Place) : Place :=
  { p.drop n with
    afterBreak := p.afterBreak || '\n' ∈ p.rest.take n
    afterComment := true }

/-- Passes blanks and comments; each round takes a character. -/
def settleFrom : (fuel : Nat) → Place → Place
  | 0, p => p
  | fuel + 1, p =>
    match p.rest with
    | '/' :: '/' :: cs => settleFrom fuel (p.passComment ((cs.takeWhile (· ≠ '\n')).length + 2))
    | '/' :: '*' :: cs => settleFrom fuel (p.passComment (commentLength cs + 2))
    | '\n' :: cs => settleFrom fuel { p with rest := cs, line := p.line + 1, afterBreak := true }
    | c :: cs => if isSpace c then settleFrom fuel { p with rest := cs } else p
    | [] => p

/-- The place of the next token. -/
def settle (p : Place) : Place :=
  settleFrom (p.rest.length + 1) { p with afterBreak := false, afterComment := false }

/-- The place of the token behind so many characters. -/
def advance (n : Nat) (p : Place) : Place := (p.drop n).settle

end Place

end ArchLint.TypeScript
