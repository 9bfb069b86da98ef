import ArchLint.TypeScript.Type

/-!
Expressions, with the functions, classes and objects inside them. Operators are not ranked, since
that changes neither what an expression imports nor in which order.
-/

namespace ArchLint.TypeScript.Parser

variable (self : Phrases)

/-! ### Templates and regular expressions -/

/-- The number of characters of a template before its end, a computed part, or the end of the
text. -/
def templateLength : List Char → Nat
  | '\\' :: _ :: cs => templateLength cs + 2
  | '$' :: '\x7b' :: _ => 0
  | c :: cs => if c = '\x60' then 0 else templateLength cs + 1
  | [] => 0

/-- A template after its opening mark or a computed part. -/
def templateRest (part : Parser Unit) : (rounds : Nat) → Parser Unit
  | 0 => failure
  | rounds + 1 => do
    drop (templateLength (← rest))
    match ← rest with
    | '$' :: _ =>
      advance 2
      part
      check ((← rest).head? = some '\x7d')
      drop 1
      templateRest part rounds
    | [] => failure
    | _ => advance 1

/-- A template, whose computed parts are types or expressions. -/
def templatePhrase (ofTypes : Bool) : Parser Unit := do
  check ((← rest).head? = some '\x60')
  drop 1
  templateRest (self (if ofTypes then .type else .expression {})) (← rest).length

/-- The number of characters of a regular expression after its first slash. A slash within
brackets does not end it. -/
def regexLength? (inBrackets : Bool) : List Char → Option Nat
  | '\\' :: _ :: cs => (regexLength? inBrackets cs).map (· + 2)
  | c :: cs =>
    if c = '\n' then none
    else if c = '/' ∧ !inBrackets then some (1 + wordLength cs)
    else (regexLength? ((inBrackets || c = '[') && c ≠ ']') cs).map (· + 1)
  | [] => none

def regex : Parser Unit := do
  match (← rest) with
  | '/' :: cs =>
    match regexLength? false cs with
    | some n => advance (n + 1)
    | none => failure
  | _ => failure

/-! ### Bindings and parameters -/

/-- A value after an equals sign. -/
def initializer (mode : Mode) : Parser Unit := do
  symbol "="
  self (.assignment mode)

/-- The key of an object, in a pattern or in a value. -/
def key : Parser Unit := do
  match ← peek with
  | .word _ => skip
  | .quoted _ => skip
  | .number => skip
  | .symbol "[" =>
    skip
    self (.assignment {})
    symbol "]"
  | _ => failure

def patternProperty : Parser Unit :=
  (do symbol "..."; self .pattern) <|> do
    key self
    optional (do symbol ":"; self .pattern)
    optional (initializer self {})

def patternItem : Parser Unit := do
  optional (symbol "...")
  self .pattern
  optional (initializer self {})

/-- What a value is bound to: a name, or names in the shape of the value. -/
def patternPhrase : Parser Unit := do
  match ← peek with
  | .symbol "\x7b" => listBetween "\x7b" "\x7d" (patternProperty self)
  | .symbol "[" => listBetween "[" "]" (patternItem self)
  | .word _ => skip
  | _ => failure

/-- Names with dots and calls behind a decorator's first name, whose parts are given. -/
def decoratorTail (isLoader : Bool) (parts : List Syntax) : (rounds : Nat) → Parser Unit
  | 0 => parts.forM note
  | rounds + 1 =>
    (do
      symbol "."
      let _ ← anyWord
      decoratorTail false parts rounds) <|>
    (do
      let ((), types) ← within (optional (do typeArguments self; ahead (symbol "(")))
      let ((), parts) ← within (callOf self isLoader (parts ++ types))
      decoratorTail false parts rounds) <|>
    parts.forM note

def decorator : Parser Unit := do
  symbol "@"
  match ← peek with
  | .word w =>
    skip
    decoratorTail self (w = "require") [] (← rest).length
  | .symbol "(" =>
    skip
    let ((), parts) ← within (self (.expression {}))
    symbol ")"
    decoratorTail self false parts (← rest).length
  | _ => failure

/-- A parameter of a function. -/
def parameter : Parser Unit := do
  many (decorator self)
  many (do
    let w ← anyWord
    check (w ∈ ["public", "private", "protected", "readonly", "override", "declare"])
    ahead (self .pattern))
  optional (symbol "...")
  self .pattern
  optional (symbol "?")
  optional (typeClause self)
  optional (initializer self {})

def parametersPhrase : Parser Unit := listBetween "(" ")" (parameter self)

/-! ### Functions, classes and objects -/

/-- A function after its name. -/
def functionTail : Parser Unit := do
  signature self
  self .block

/-- The name of a function and a star for one that gives several values. -/
def functionHead : Parser Unit := do
  optional (do word "async"; sameLine)
  word "function"
  optional (symbol "*")
  optional (do let _ ← anyWord)

def functionExpression : Parser Unit := do
  functionHead
  functionTail self

/-- What a class extends and implements. -/
def heritage : Parser Unit :=
  many <|
    (do
      word "extends"
      self .unary
      optional (typeArguments self)) <|>
    (do
      word "implements"
      self .type
      many (do symbol ","; self .type))

/-- A class after its name. -/
def classTail : Parser Unit := do
  optional (typeParameters self)
  heritage self
  self .classBody

def classExpression : Parser Unit := do
  word "class"
  optional (do let _ ← wordExcept ["extends", "implements"])
  classTail self

def classModifiers : List String :=
  ["declare", "public", "private", "protected", "static", "abstract", "override", "readonly",
    "accessor", "async", "get", "set"]

/-- A method or a field of a class. -/
def classMember : Parser Unit := do
  many (symbol "*" <|> modifier classModifiers)
  memberName self
  optional (anySymbol ["?", "!"])
  (do signature self; optional (self .block)) <|> (do
    optional (typeClause self)
    optional (initializer self {}))

def classBody : Parser Unit := do
  symbol "\x7b"
  many (symbol ";" <|> decorator self <|> (do word "static"; self .block) <|> classMember self)
  symbol "\x7d"

def property : Parser Unit :=
  (do symbol "..."; self (.assignment {})) <|>
  (do
    many (symbol "*" <|> modifier ["async", "get", "set"])
    key self
    functionTail self) <|>
  (do
    key self
    symbol ":"
    self (.assignment {})) <|>
  (do
    key self
    optional (initializer self {}))

def objectLiteral : Parser Unit := listBetween "\x7b" "\x7d" (property self)

/-! ### Operands -/

/-- Words that start no operand. -/
def reserved : List String :=
  ["in", "instanceof", "else", "case", "default", "catch", "finally", "extends", "const", "var",
    "return", "if", "for", "while", "do", "switch", "throw", "try", "break", "continue", "with",
    "debugger", "export", "enum"]

/-- An operand with nothing behind it, and whether it is a loader. -/
def primary : Parser Bool := do
  match ← peek with
  | .finish => failure
  | .number =>
    skip
    return false
  | .quoted _ =>
    skip
    return false
  | .word w =>
    if w ∈ reserved then failure
    else
      (do functionExpression self; return false) <|>
      (do classExpression self; return false) <|>
      (do skip; return w = "require" || w = "import")
  | .symbol s =>
    match s with
    | "(" =>
      skip
      self (.expression {})
      symbol ")"
    | "[" => listBetween "[" "]" (optional (symbol "...") >>= fun _ => self (.assignment {}))
    | "\x7b" => objectLiteral self
    | "\x60" => self (.template false)
    | "@" =>
      many (decorator self)
      classExpression self
    | "<" =>
      self .markup
      settle
    | _ => regex
    return false

/-- May an expression be done after type arguments? -/
def endsTypeArguments : Parser Bool := fun s =>
  let follows := match (Token.read s.place.rest).1 with
    | .finish => true
    | .word w => w ∈ ["as", "satisfies", "instanceof", "in", "is"]
    | .symbol t => t ∉ ["\x7b", "[", "<", ">", "+", "-", "/", "!", "~", "@", "++", "--"]
    | _ => false
  some (follows || s.place.afterBreak, s)

/-- An index, a name or a template behind an operand. -/
def access : Parser Unit :=
  (do symbol "["; self (.expression {}); symbol "]") <|>
  (do symbol "."; let _ ← anyWord) <|>
  (do
    symbol "?."
    (do symbol "["; self (.expression {}); symbol "]") <|> (do let _ ← anyWord) <|>
      self (.template false)) <|>
  self (.template false)

/-- One step behind an operand that has the given parts: whether the result is a loader, and its
parts. -/
def stepBehind (isLoader : Bool) (parts : List Syntax) : Parser (Bool × List Syntax) :=
  (do
    let ((), parts) ← within (callOf self isLoader parts)
    return (false, parts)) <|>
  (do
    let ((), parts) ← within do
      symbol "?."
      let ((), types) ← within (optional (typeArguments self))
      callOf self isLoader (parts ++ types)
    return (false, parts)) <|>
  (do
    let ((), more) ← within (access self)
    return (false, parts ++ more)) <|>
  (do
    sameLine
    anySymbol ["!", "++", "--"]
    return (false, parts)) <|>
  (do
    let ((), types) ← within (typeArguments self)
    check (← endsTypeArguments)
    return (isLoader, parts ++ types))

/-- As many steps behind an operand as there are. -/
def behind (isLoader : Bool) (parts : List Syntax) : (rounds : Nat) → Parser (List Syntax)
  | 0 => return parts
  | rounds + 1 =>
    (do
      let (isLoader, parts) ← stepBehind self isLoader parts
      behind isLoader parts rounds) <|> return parts

/-- The function of a `new` expression: an operand, and names, indices and templates behind it, but
no call. -/
def constructed : Parser Unit := do
  many (word "new")
  let _ ← primary self
  many <|
    (do symbol "."; let _ ← anyWord) <|>
    (do symbol "["; self (.expression {}); symbol "]") <|>
    self (.template false) <|>
    (do sameLine; symbol "!")

def newExpression : Parser Unit := do
  word "new"
  (do symbol "."; let _ ← anyWord) <|> do
    constructed self
    optional (do typeArguments self; check (← endsTypeArguments))
    optional (self .arguments)

/-- An operand and everything behind it. -/
def chain : Parser Unit := do
  let (isLoader, parts) ← within <|
    (do newExpression self; return false) <|> primary self
  let parts ← behind self isLoader parts (← rest).length
  parts.forM note

/-- An operand with operators in front of it. -/
def unaryPhrase : Parser Unit :=
  (do
    anySymbol ["!", "~", "+", "-", "++", "--"]
    self .unary) <|>
  (do
    let w ← anyWord
    check (w ∈ ["typeof", "void", "delete", "await"])
    self .unary) <|>
  (do
    check (!(← get).hasMarkup)
    mark '<'
    self .type
    mark '>'
    self .unary) <|>
  chain self

/-! ### Whole expressions -/

def binaryOperators : List String :=
  ["+", "-", "*", "/", "%", "**", "<<", ">>", ">>>", "<", ">", "<=", ">=", "==", "!=", "===", "!==",
    "&", "|", "^", "&&", "||", "??"]

def assignmentOperators : List String :=
  ["=", "+=", "-=", "*=", "/=", "%=", "**=", "<<=", ">>=", ">>>=", "&=", "|=", "^=", "&&=", "||=",
    "??="]

/-- Operands with operators between them. -/
def operation (mode : Mode) : Parser Unit := do
  self .unary
  many <|
    (do anySymbol binaryOperators; self .unary) <|>
    (do
      sameLine
      word "as" <|> word "satisfies"
      self .type) <|>
    (do word "instanceof"; self .unary) <|>
    (do
      check (!mode.noIn)
      word "in"
      self .unary)

/-- A choice after its condition. A type after parameters is tried first. -/
def choice (mode : Mode) : Parser Unit := do
  symbol "?"
  (do self (.assignment {}); symbol ":") <|> (do self (.assignment { noResult := true }); symbol ":")
  self (.assignment mode)

/-- Type parameters of a function without a name. Where there is markup, they need a comma or a
bound to be told from it. -/
def arrowTypeParameters : Parser Unit := do
  if (← get).hasMarkup then
    ahead do
      mark '<'
      optional (do word "const"; ahead anyWord)
      let _ ← anyWord
      symbol "," <|> word "extends"
  typeParameters self

/-- Everything before the arrow of a function without a name. -/
def arrowHead (mode : Mode) : Parser Unit :=
  (do
    let _ ← wordExcept reserved
    sameLine
    symbol "=>") <|>
  (do
    optional (arrowTypeParameters self)
    self .parameters
    if !mode.noResult then optional (typeClause self)
    sameLine
    symbol "=>")

def arrowFunction (mode : Mode) : Parser Unit := do
  (do word "async"; sameLine; arrowHead self mode) <|> arrowHead self mode
  if ← isAt (symbol "\x7b") then self .block else self (.assignment mode)

def yieldExpression (mode : Mode) : Parser Unit := do
  word "yield"
  optional (symbol "*")
  optional (self (.assignment mode))

/-- An expression without commas. -/
def assignmentPhrase (mode : Mode) : Parser Unit :=
  arrowFunction self mode <|> yieldExpression self mode <|> do
    operation self mode
    optional (choice self mode)
    optional do
      anySymbol assignmentOperators
      self (.assignment mode)

def expressionPhrase (mode : Mode) : Parser Unit := do
  self (.assignment mode)
  many (do symbol ","; self (.assignment mode))

def argumentsPhrase : Parser Unit :=
  listBetween "(" ")" (do optional (symbol "..."); self (.assignment {}))

end ArchLint.TypeScript.Parser
