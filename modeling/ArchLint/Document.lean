import ArchLint.Number.Decimal

/-!
What a document holds before its fields are read, whatever its format. An unquoted scalar of a
format without types is kept as text and is read as the field demands. Each reader either takes a
value whole or refuses it.
-/

namespace ArchLint

/-- A value of a document. The key of an entry is missing when it is no text. -/
inductive Document where
  | null
  | bool (b : Bool)
  /-- A number: the natural number below `2 ^ 64` it is, and its value unless that is too large. -/
  | number (natural : Option Nat) (value : Option Binary64)
  | text (s : String)
  /-- A scalar without quotes and without a type of its own. -/
  | plain (s : String)
  | list (items : List Document)
  | table (entries : List (Option String × Document))
  | tagged (tag : String) (content : Document)
  /-- A value that no field takes. -/
  | foreign
  deriving Repr

namespace Document

/-- What a format allows in place of a table. -/
structure Conventions where
  /-- A list may stand for a table and gives the fields in order. -/
  listForTable : Bool
  /-- Such a list may have more items than there are fields. -/
  surplus : Bool
  /-- An empty table or list may stand for the null that the format cannot write. -/
  emptyForNull : Bool
  deriving DecidableEq, Repr

/-- The spellings of the empty scalar. -/
def isNullWord (s : String) : Bool := s = "" || s ∈ ["null", "Null", "NULL", "~"]

def boolWord? (s : String) : Option Bool :=
  if s ∈ ["true", "True", "TRUE"] then some true
  else if s ∈ ["false", "False", "FALSE"] then some false
  else none

/-- Digits of a base below 37, in either case. -/
def digitValue? (base : Nat) (c : Char) : Option Nat :=
  let value := if c.isDigit then some (c.toNat - 48)
    else if 'a' ≤ c ∧ c ≤ 'z' then some (c.toNat - 87)
    else if 'A' ≤ c ∧ c ≤ 'Z' then some (c.toNat - 55)
    else none
  value.filter (· < base)

/-- A number in a base, at least one digit. -/
def inBase? (base : Nat) (cs : List Char) : Option Nat :=
  if cs.isEmpty then none
  else cs.foldl (fun n c => do return base * (← n) + (← digitValue? base c)) (some 0)

/-- Digits after a leading zero make a word, not a number. -/
def isZeroLed (cs : List Char) : Bool :=
  match cs with
  | '0' :: d :: ds => (d :: ds).all Char.isDigit
  | _ => false

def dropSign : List Char → List Char
  | '+' :: cs => cs
  | '-' :: cs => cs
  | cs => cs

/-- An integer without its sign, in base ten or after the mark of another base. -/
def magnitudeWord? (cs : List Char) : Option Nat :=
  match cs with
  | '0' :: 'x' :: ds => inBase? 16 ds
  | '0' :: 'o' :: ds => inBase? 8 ds
  | '0' :: 'b' :: ds => inBase? 2 ds
  | _ => if isZeroLed cs then none else inBase? 10 cs

/-- The natural number below `2 ^ 64` that a scalar spells. -/
def naturalWord? (s : String) : Option Nat :=
  let cs := match s.toList with
    | '+' :: cs => cs
    | cs => cs
  (magnitudeWord? cs).filter (· < Nat.pow 2 64)

/-- Does a scalar spell an integer of either sign that fits in 128 bits? -/
def isIntegerWord (s : String) : Bool :=
  match s.toList with
  | '-' :: cs => (magnitudeWord? cs).any (· ≤ Nat.pow 2 127)
  | '+' :: cs => (magnitudeWord? cs).any (· < Nat.pow 2 128)
  | cs => (magnitudeWord? cs).any (· < Nat.pow 2 128)

/-- The binary64 value that a scalar spells. -/
def binary64Word? (s : String) : Option Binary64 :=
  if s ∈ [".nan", ".NaN", ".NAN"] then some .nan
  else if s ∈ [".inf", ".Inf", ".INF", "+.inf", "+.Inf", "+.INF"] then some (.infinite false)
  else if s ∈ ["-.inf", "-.Inf", "-.INF"] then some (.infinite true)
  else (Decimal.read? s).filter Binary64.isFinite

/-- Does a scalar spell a word, and not a value of another type? -/
def isTextWord (s : String) : Bool :=
  !(isNullWord s || (boolWord? s).isSome || isIntegerWord s ||
    (!isZeroLed (dropSign s.toList) && (binary64Word? s).isSome))

/-- A text; a scalar without a type is one. -/
def asText? : Document → Option String
  | text s => some s
  | plain s => some s
  | tagged _ d => d.asText?
  | _ => none

def asBool? : Document → Option Bool
  | bool b => some b
  | plain s => boolWord? s
  | tagged _ d => d.asBool?
  | _ => none

def asNatural? : Document → Option Nat
  | number n _ => n
  | plain s => naturalWord? s
  | tagged _ d => d.asNatural?
  | _ => none

def asBinary64? : Document → Option Binary64
  | number _ v => v
  | plain s => binary64Word? s
  | tagged _ d => d.asBinary64?
  | _ => none

/-- The items of a list; an empty scalar is an empty list. -/
def asList? : Document → Option (List Document)
  | list items => some items
  | plain s => if s = "" then some [] else none
  | tagged _ d => d.asList?
  | _ => none

/-- A list of what `read` reads. -/
def asListOf? {α : Type} (read : Document → Option α) (d : Document) : Option (List α) :=
  d.asList?.bind fun items => items.mapM read

/-- The tag that announces an empty scalar. -/
def nullTag : String := "tag:yaml.org,2002:null"

/-- A value that may be missing: whether it is there, when that can be told. -/
def isPresent? : Document → Option Bool
  | null => some false
  | plain s => some (!isNullWord s)
  | tagged tag (plain s) => if tag = nullTag then if isNullWord s then some false else none else some true
  | _ => some true

/-- A value that may be null. -/
def asOption? {α : Type} (read : Document → Option α) (d : Document) : Option (Option α) :=
  d.isPresent?.bind fun present => if present then (read d).map some else some none

/-- Does a value say nothing but that there is none? -/
def isHollow (c : Conventions) : Document → Bool
  | null => true
  | table [] => c.emptyForNull
  | list [] => c.emptyForNull
  | _ => false

/-- A word of a fixed vocabulary. A table of one entry without content also gives the word of its
key. -/
def asWord? {α : Type} (c : Conventions) (vocabulary : String → Option α) : Document → Option α
  | text s => vocabulary s
  | table [(some key, content)] => if content.isHollow c then vocabulary key else none
  | _ => none

/-- The fields of a table by name. -/
abbrev Fields := List (String × Document)

/-- The known fields of a table. No known field stands twice, and unknown ones do not count. -/
def asFields? (c : Conventions) (names : List String) : Document → Option Fields
  | table entries =>
    if entries.any fun e => e.1.isNone then none
    else
      let known := entries.filterMap fun e => e.1.bind fun k =>
        if k ∈ names then some (k, e.2) else none
      if (known.map Prod.fst).Nodup then some known else none
  | list items =>
    if c.listForTable ∧ (c.surplus ∨ items.length ≤ names.length) then some (names.zip items) else none
  | plain s => if s = "" ∧ ¬ c.listForTable then some [] else none
  | tagged _ d => d.asFields? c names
  | _ => none

/-- A field that has to be there. -/
def Fields.required? {α : Type} (fs : Fields) (name : String) (read : Document → Option α) :
    Option α :=
  (fs.lookup name).bind read

/-- A field with a value for when it is missing. -/
def Fields.withDefault? {α : Type} (fs : Fields) (name : String) (default : α)
    (read : Document → Option α) : Option α :=
  match fs.lookup name with
  | some d => read d
  | none => some default

/-- A field that may be missing or null. -/
def Fields.optional? {α : Type} (fs : Fields) (name : String) (read : Document → Option α) :
    Option (Option α) :=
  match fs.lookup name with
  | some d => d.asOption? read
  | none => some none

end Document

end ArchLint
