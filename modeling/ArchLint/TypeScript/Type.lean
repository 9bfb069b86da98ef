import ArchLint.TypeScript.Parser

/-!
Types. Of a type only the calls that import a module and the expressions inside are noted.
-/

namespace ArchLint.TypeScript.Parser

variable (self : Phrases)

/-- Parameters of types, between angle brackets. -/
def typeParameters : Parser Unit := do
  mark '<'
  many <| symbol "," <|> do
    let _ ← wordExcept ["extends"]
    many (do let _ ← wordExcept ["extends"])
    optional (do word "extends"; self .type)
    optional (do symbol "="; self .type)
  mark '>'

/-- Types as arguments, between angle brackets. -/
def typeArguments : Parser Unit := do
  mark '<'
  many (symbol "," <|> self .type)
  mark '>'

/-- The type of a result or of a variable. -/
def typeClause : Parser Unit := do
  symbol ":"
  self .type

/-- Parameters of a function and the type of its result. -/
def signature : Parser Unit := do
  optional (typeParameters self)
  self .parameters
  optional (typeClause self)

def functionType : Parser Unit := do
  optional (do word "abstract"; ahead (word "new"))
  optional (word "new")
  optional (typeParameters self)
  self .parameters
  symbol "=>"
  self .type

/-- An item of a tuple, perhaps with a name. -/
def tupleItem : Parser Unit := do
  optional (symbol "...")
  optional (do let _ ← anyWord; optional (symbol "?"); symbol ":")
  self .type
  optional (symbol "?")

/-- The first argument of a call, if it is a literal: it stands right after the parenthesis, and
nothing is done to it. -/
def literalArgument : Parser (Option (List Char)) := fun s =>
  let literal? : Option (List Char) := match Token.read s.place.rest, s.place.rest with
    | (.quoted literal, _), _ => some literal
    | _, '\x60' :: cs => some ('\x60' :: cs.take (quotedLength '\x60' cs))
    | _, _ => none
  let fits := fun (literal : List Char) =>
    match Token.read (s.place.advance literal.length).rest with
    | (.symbol t, _) => t = "," || t = ")"
    | _ => false
  some (if s.place.afterComment then none else literal?.filter fits, s)

/-- A call of what was noted by `before`. -/
def callOf (isLoader : Bool) (before : List Syntax) : Parser Unit := do
  let argument ← lookAhead (do symbol "("; literalArgument)
  let ((), parts) ← within (self .arguments)
  note (.call isLoader argument (before ++ parts))

/-- The type of a module or of one of its parts. -/
def importType : Parser Unit := do
  word "import"
  callOf self true []

/-- Names with dots between them. -/
def dotted : Parser Unit := do
  let _ ← anyWord
  many (do symbol "."; let _ ← anyWord)

/-- A type that starts with a word. -/
def namedType : Parser Unit := do
  optional (do word "typeof"; ahead anyWord)
  (do importType self; many (do symbol "."; let _ ← anyWord)) <|> dotted
  optional (typeArguments self)

def primaryType : Parser Unit := do
  match ← peek with
  | .quoted _ => skip
  | .number => skip
  | .word _ => namedType self
  | .symbol "(" =>
    skip
    self .type
    symbol ")"
  | .symbol "[" => listBetween "[" "]" (tupleItem self)
  | .symbol "\x7b" => self .objectType
  | .symbol "\x60" => self (.template true)
  | .symbol "-" =>
    skip
    check ((← peek) = .number)
    skip
  | _ => failure

/-- A type without operators between types. -/
def operandType : Parser Unit :=
  (do
    let w ← anyWord
    check (w ∈ ["keyof", "unique", "readonly", "asserts"])
    self .type) <|>
  (do
    word "infer"
    let _ ← anyWord
    optional (do word "extends"; self .type)) <|>
  (do
    primaryType self
    many (do sameLine; symbol "["; optional (self .type); symbol "]")
    optional (do sameLine; word "is"; self .type))

def unionType : Parser Unit := do
  optional (anySymbol ["|", "&"])
  operandType self
  many (do anySymbol ["|", "&"]; operandType self)

/-- Any type. -/
def typePhrase : Parser Unit :=
  functionType self <|> do
    unionType self
    optional do
      word "extends"
      functionType self <|> unionType self
      symbol "?"
      self .type
      symbol ":"
      self .type

/-- What stands in brackets as the name of a member: a range of keys, the type of all keys, or an
expression. -/
def computedName : Parser Unit := do
  symbol "["
  (do
    let _ ← anyWord
    word "in"
    self .type
    optional (do word "as"; self .type)
    symbol "]") <|>
  (do
    let _ ← anyWord
    typeClause self
    symbol "]") <|>
  (do
    self (.expression {})
    symbol "]")

/-- The name of a member. -/
def memberName : Parser Unit := do
  match ← peek with
  | .word _ => skip
  | .quoted _ => skip
  | .number => skip
  | .symbol "[" => computedName self
  | _ => failure

/-- A member of an object type. -/
def typeMember : Parser Unit := do
  many (anySymbol ["+", "-"] <|> modifier ["readonly", "get", "set", "static", "async"])
  optional (memberName self)
  optional (anySymbol ["+", "-"])
  optional (symbol "?")
  optional (signature self)
  optional (typeClause self)

def objectType : Parser Unit := do
  symbol "\x7b"
  many (anySymbol [";", ","] <|> typeMember self)
  symbol "\x7d"

end ArchLint.TypeScript.Parser
