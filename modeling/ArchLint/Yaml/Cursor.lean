/-!
A place in a YAML text: the rest of the text, how many characters and lines are before it, and how
many characters of its line are. There are more line breaks than the line feed, and a text holds no
characters that only control.
-/

namespace ArchLint.Yaml

structure Cursor where
  rest : List Char
  index : Nat := 0
  line : Nat := 0
  column : Nat := 0
  deriving Repr

/-- Characters that a text may hold. -/
def isAllowed (c : Char) : Bool :=
  c = '\t' || c = '\n' || c = '\r' || (' ' ≤ c && c ≤ '~') || c = '\u0085' ||
    ('\u00a0' ≤ c && c ≠ '\ufffe' && c ≠ '\uffff')

def isBreak (c : Char) : Bool :=
  c = '\n' || c = '\r' || c = '\u0085' || c = '\u2028' || c = '\u2029'

def isBlank (c : Char) : Bool := c = ' ' || c = '\t'

/-- The end of a word: a blank, a line break or the end of the text. -/
def endsWord : List Char → Bool
  | [] => true
  | c :: _ => isBlank c || isBreak c

/-- Letters of names of anchors and tags. -/
def isNameChar (c : Char) : Bool := c.isAlphanum || c = '_' || c = '-'

namespace Cursor

def head? (c : Cursor) : Option Char := c.rest.head?

/-- Passes characters that do not break the line. -/
def skip (n : Nat) (c : Cursor) : Cursor :=
  { c with rest := c.rest.drop n, index := c.index + n, column := c.column + n }

/-- The place behind characters of a kind, none of which breaks the line. -/
def skipWhile (p : Char → Bool) (c : Cursor) : Cursor := c.skip (c.rest.takeWhile p).length

/-- The place behind a line break that takes so many characters. -/
def breakLine (n : Nat) (c : Cursor) : Cursor :=
  { rest := c.rest.drop n, index := c.index + n, line := c.line + 1, column := 0 }

/-- The character that a line break stands for, and the place behind it. -/
def break? (c : Cursor) : Option (Char × Cursor) :=
  match c.rest with
  | '\r' :: '\n' :: _ => some ('\n', c.breakLine 2)
  | b :: _ =>
    if b = '\u2028' ∨ b = '\u2029' then some (b, c.breakLine 1)
    else if isBreak b then some ('\n', c.breakLine 1)
    else none
  | [] => none

/-- Is there a mark of the start or end of a document? -/
def isAtDocumentMark (c : Cursor) : Bool :=
  c.column = 0 &&
    match c.rest with
    | '-' :: '-' :: '-' :: cs => endsWord cs
    | '.' :: '.' :: '.' :: cs => endsWord cs
    | _ => false

/-- Is there one of the characters? -/
def isAt (c : Cursor) (cs : List Char) : Bool := c.head?.any (· ∈ cs)

/-- The place behind a comment. -/
def skipComment (c : Cursor) : Cursor :=
  if c.isAt ['#'] then c.skipWhile fun x => !isBreak x else c

end Cursor

end ArchLint.Yaml
