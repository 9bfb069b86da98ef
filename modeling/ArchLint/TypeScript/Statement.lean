import ArchLint.TypeScript.Expression

/-!
Statements and declarations. A semicolon may be missing at the end of any statement. What cannot be
parsed is passed over token by token, so that the rest of the file is not lost.
-/

namespace ArchLint.TypeScript.Parser

variable (self : Phrases)

/-- A name that is declared, and as what. -/
abbrev Declared := String × SymbolKind

/-! ### Declarations -/

/-- A variable; it is declared as a name only if it is not taken out of a structure. -/
def variableBinding (mode : Mode) : Parser (List Declared) := do
  let name ← peek
  self .pattern
  optional (symbol "!")
  optional (typeClause self)
  optional (initializer self mode)
  match name with
  | .word w => return [(w, .constDecl)]
  | _ => return []

/-- Further variables after commas. -/
def moreBindings (mode : Mode) : (rounds : Nat) → Parser (List Declared)
  | 0 => return []
  | rounds + 1 =>
    (do
      symbol ","
      let names ← variableBinding self mode
      return names ++ (← moreBindings mode rounds)) <|> return []

def variableDeclaration (mode : Mode) : Parser (List Declared) := do
  let w ← anyWord
  check (w ∈ ["var", "let", "const"])
  let names ← variableBinding self mode
  return names ++ (← moreBindings self mode (← rest).length)

/-- A function; one that is only announced has no body. -/
def functionDeclaration : Parser (List Declared) := do
  optional (do word "async"; sameLine)
  word "function"
  optional (symbol "*")
  let name ← anyWord
  signature self
  optional (self .block)
  return [(name, .functionDecl)]

def classDeclaration : Parser (List Declared) := do
  optional (do word "abstract"; sameLine)
  word "class"
  let name ← wordExcept ["extends", "implements"]
  classTail self
  return [(name, .classDecl)]

def interfaceDeclaration : Parser (List Declared) := do
  word "interface"
  sameLine
  let name ← anyWord
  optional (typeParameters self)
  optional do
    word "extends"
    self .type
    many (do symbol ","; self .type)
  self .objectType
  return [(name, .interfaceDecl)]

def typeDeclaration : Parser (List Declared) := do
  word "type"
  sameLine
  let name ← anyWord
  optional (typeParameters self)
  symbol "="
  self .type
  return [(name, .typeDecl)]

def enumMember : Parser Unit := do
  key self
  optional (initializer self {})

def enumDeclaration : Parser (List Declared) := do
  optional (word "const")
  word "enum"
  let name ← anyWord
  listBetween "\x7b" "\x7d" (enumMember self)
  return [(name, .typeDecl)]

/-- A namespace, a module or an extension of the global scope. None of them is a name of its own. -/
def namespaceDeclaration : Parser (List Declared) := do
  (do
    word "namespace" <|> word "module"
    sameLine
    dotted <|> (do let _ ← quoted)
    optional (self .block)) <|>
  (do
    word "global"
    self .block)
  return []

/-- Another name for a part of a namespace. -/
def aliasDeclaration : Parser (List Declared) := do
  word "import"
  let _ ← anyWord
  symbol "="
  dotted
  return []

def plainDeclaration : Parser (List Declared) :=
  enumDeclaration self <|> variableDeclaration self {} <|> functionDeclaration self <|>
    classDeclaration self <|> interfaceDeclaration self <|> typeDeclaration self <|>
    namespaceDeclaration self <|> aliasDeclaration

/-- A declaration, which may only announce what is defined elsewhere. -/
def declaration : Parser (List Declared) := do
  optional (do word "declare"; sameLine; ahead anyWord)
  plainDeclaration self

/-! ### Imports and exports -/

/-- A string that a statement takes its names from, and what is said about how to load it. -/
def source : Parser (List Char) := do
  let literal ← quoted
  optional do
    sameLine
    word "with" <|> word "assert"
    objectLiteral self
  return literal

def fromSource : Parser (List Char) := do
  word "from"
  source self

/-- One of the pieces between `import` and the source. -/
def importPiece : Parser Unit :=
  anySymbol ["*", ","] <|>
  (do
    symbol "\x7b"
    many (symbol "," <|> (do let _ ← anyWord) <|> (do let _ ← quoted))
    symbol "\x7d") <|>
  (do let _ ← anyWord)

/-- The pieces of an import up to its source. -/
def importedFrom : (rounds : Nat) → Parser (List Char)
  | 0 => failure
  | rounds + 1 => fromSource self <|> do
    importPiece
    importedFrom rounds

/-- The right side of an import that is written as an equation. -/
def requiredSource : Parser (List Char) := do
  optional (do word "type"; ahead anyWord)
  let _ ← anyWord
  symbol "="
  word "require"
  symbol "("
  let literal ← quoted
  symbol ")"
  return literal

def importStatement : Parser Unit := do
  let (literal, parts) ← within do
    word "import"
    (do return some (← source self)) <|>
      (do return some (← requiredSource)) <|>
      (do
        let _ ← anyWord
        symbol "="
        dotted
        return none) <|>
      (do return some (← importedFrom self (← rest).length))
  note (.importing literal parts)

/-- The name under which one item of a list is exported, as it is written. -/
def exportedName : List String → Option String
  | ["type", "as"] => some "as"
  | [name] => some name
  | ["type", name] => some name
  | [_, "as", name] => some name
  | ["type", _, "as", name] => some name
  | _ => none

/-- A word, or a string with its quotes. -/
def nameText : Parser String :=
  anyWord <|> do return String.ofList (← quoted)

/-- The words of one item. -/
def exportItem : (rounds : Nat) → Parser (List String)
  | 0 => return []
  | rounds + 1 => (do return (← nameText) :: (← exportItem rounds)) <|> return []

/-- The names in braces after `export`. -/
def exportList : (rounds : Nat) → Parser (List String)
  | 0 => failure
  | rounds + 1 =>
    (do
      symbol "\x7d"
      return []) <|>
    (do
      let words ← exportItem 5
      check (!words.isEmpty)
      optional (symbol ",")
      return (exportedName words).toList ++ (← exportList rounds))

/-- The name of an export that has none. -/
def defaultName : String := "default"

/-- What an export statement exports, and where from. -/
structure Exported where
  source : Option (List Char) := none
  names : List Declared := []

/-- The value of a module: any declaration, a class or function also without a name, or an
expression. -/
def exportedDefault : Parser Exported := do
  word "default"
  (do
    optional (do word "abstract"; sameLine)
    word "class"
    optional (do let _ ← wordExcept ["extends", "implements"])
    classTail self) <|>
  (do
    functionHead
    signature self
    optional (self .block)) <|>
  (do let _ ← declaration self) <|>
  (do
    many (decorator self)
    optional (word "abstract")
    self (.expression {}))
  return { names := [(defaultName, .wholeFile)] }

/-- Everything that another module exports. -/
def exportedAll : Parser Exported := do
  optional (word "type")
  symbol "*"
  optional (do word "as"; let _ ← nameText)
  return { source := some (← fromSource self) }

/-- Names of this module or of another. -/
def exportedNames : Parser Exported := do
  optional (word "type")
  symbol "\x7b"
  let names ← exportList (← rest).length
  (do return { source := some (← fromSource self) }) <|>
    return { names := names.map fun name => (name, .constDecl) }

/-- Exports for other kinds of modules. -/
def exportedOtherwise : Parser Exported := do
  (do
    symbol "="
    self (.expression {})) <|>
  (do
    word "as"
    word "namespace"
    let _ ← anyWord)
  return {}

/-- An export statement that starts on a line with what is before the word. -/
def exportStatement (start : Nat) (before : Parser Unit) : Parser Unit := do
  let (exported, parts) ← within do
    before
    word "export"
    exportedDefault self <|> exportedAll self <|> exportedNames self <|> exportedOtherwise self <|> do
      many (decorator self)
      return { names := ← declaration self }
  let names := exported.names.map fun (name, kind) => { line := start, name, kind }
  note (.exporting exported.source names parts)

/-! ### Other statements -/

/-- An expression in parentheses. -/
def condition : Parser Unit := do
  symbol "("
  self (.expression {})
  symbol ")"

/-- What is between the parentheses of a loop. -/
def loopHead : Parser Unit := do
  optional ((do let _ ← variableDeclaration self { noIn := true }) <|>
    self (.expression { noIn := true }))
  (do
    word "of" <|> word "in"
    self (.expression {})) <|>
  (do
    symbol ";"
    optional (self (.expression {}))
    symbol ";"
    optional (self (.expression {})))

def tryStatement : Parser Unit := do
  word "try"
  self .block
  optional do
    word "catch"
    optional (self .parameters)
    self .block
  optional (do word "finally"; self .block)

def switchStatement : Parser Unit := do
  word "switch"
  condition self
  symbol "\x7b"
  many <|
    (do word "case"; self (.expression {}); symbol ":") <|>
    (do word "default"; symbol ":") <|>
    self .statement
  symbol "\x7d"

/-- A statement that starts with a word of its own. -/
def keywordStatement : Parser Unit := do
  match ← peek with
  | .word "if" =>
    skip
    condition self
    self .statement
    optional (do word "else"; self .statement)
  | .word "for" =>
    skip
    optional (word "await")
    symbol "("
    loopHead self
    symbol ")"
    self .statement
  | .word "while" =>
    skip
    condition self
    self .statement
  | .word "with" =>
    skip
    condition self
    self .statement
  | .word "do" =>
    skip
    self .statement
    word "while"
    condition self
  | .word "return" =>
    skip
    optional (do sameLine; self (.expression {}))
  | .word "throw" =>
    skip
    self (.expression {})
  | .word "break" =>
    skip
    optional (do sameLine; let _ ← wordExcept reserved)
  | .word "continue" =>
    skip
    optional (do sameLine; let _ ← wordExcept reserved)
  | .word "debugger" => skip
  | .word "try" => tryStatement self
  | .word "switch" => switchStatement self
  | _ => failure

/-- A statement with a name of its own. -/
def labelled : Parser Unit := do
  let _ ← wordExcept reserved
  symbol ":"
  self .statement

/-- Any statement but imports and exports. -/
def plainStatement : Parser Unit :=
  self .block <|> keywordStatement self <|> (do let _ ← declaration self) <|> labelled self <|>
    (do many (decorator self); let _ ← declaration self) <|>
    self (.expression {})

/-- Any statement. Its semicolon may be missing. -/
def statementPhrase : Parser Unit := do
  let start ← line
  symbol ";" <|> do
    importStatement self <|> exportStatement self start (many (decorator self)) <|>
      grouped (plainStatement self)
    optional (symbol ";")

/-- Passes over a token that belongs to nothing. -/
def pass (stops : List Token) : Parser Unit := do
  check ((← peek) ∉ .finish :: stops)
  skip

def blockPhrase : Parser Unit := do
  symbol "\x7b"
  many (self .statement <|> pass [.symbol "\x7d"])
  symbol "\x7d"

/-- A whole file. -/
def file : Parser Unit := many (self .statement <|> pass [])

end ArchLint.TypeScript.Parser
