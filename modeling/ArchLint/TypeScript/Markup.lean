import ArchLint.TypeScript.Parser

/-!
Markup among expressions: elements with attributes and children. Text between elements is no source
text, so an element ends right behind its last character.
-/

namespace ArchLint.TypeScript.Parser

variable (self : Phrases)

def isTagChar (c : Char) : Bool := isWordChar c || c = '-' || c = ':' || c = '.'

/-- The name of an element or an attribute. -/
def tagName : Parser Unit := do
  let n := ((← rest).takeWhile isTagChar).length
  check (0 < n)
  advance n

/-- A character after which no token has to follow. -/
def lastMark (c : Char) : Parser Unit := do
  check ((← rest).head? = some c)
  drop 1

/-- An expression in braces, or nothing in them. -/
def embedded : Parser Unit := do
  symbol "\x7b"
  optional (symbol "...")
  optional (self (.expression {}))

/-- The value of an attribute. A string has no escapes here. -/
def attributeValue : Parser Unit := do
  match ← rest with
  | '"' :: cs => advance ((cs.takeWhile (· ≠ '"')).length + 2)
  | '\'' :: cs => advance ((cs.takeWhile (· ≠ '\'')).length + 2)
  | '<' :: _ =>
    self .markup
    settle
  | _ =>
    embedded self
    symbol "\x7d"

def tagAttribute : Parser Unit :=
  (do embedded self; symbol "\x7d") <|> do
    tagName
    optional (do symbol "="; attributeValue self)

/-- Text, expressions and elements, up to the tag that closes them. -/
def children : (rounds : Nat) → Parser Unit
  | 0 => failure
  | rounds + 1 => do
    drop ((← rest).takeWhile fun c => c ≠ '<' ∧ c ≠ '\x7b').length
    (do
      embedded self
      lastMark '\x7d'
      children rounds) <|>
    (do
      mark '<'
      symbol "/"
      optional tagName
      lastMark '>') <|>
    (do
      self .markup
      children rounds)

/-- An element or a fragment. -/
def markupPhrase : Parser Unit := do
  check (← get).hasMarkup
  mark '<'
  (do
    lastMark '>'
    children self (← rest).length) <|>
  (do
    tagName
    optional do
      mark '<'
      many (symbol "," <|> self .type)
      mark '>'
    many (tagAttribute self)
    (do symbol "/"; lastMark '>') <|> (do
      lastMark '>'
      children self (← rest).length))

end ArchLint.TypeScript.Parser
