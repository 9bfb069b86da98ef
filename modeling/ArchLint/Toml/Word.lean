import ArchLint.Document

/-!
Values that are written as one word without quotes: truth values, numbers, dates and times. A date
is no value that any field takes, but it has to be a date of the calendar.
-/

namespace ArchLint.Toml

/-- Digits with single underscores between them. -/
def ungroup? (isDigit : Char → Bool) : List Char → Option (List Char)
  | [] => none
  | [d] => if isDigit d then some [d] else none
  | d :: '_' :: rest => if isDigit d then (ungroup? isDigit rest).map (d :: ·) else none
  | d :: rest => if isDigit d then (ungroup? isDigit rest).map (d :: ·) else none

/-- Decimal digits that start with a zero only when that is all. -/
def wholeDigits? (cs : List Char) : Option (List Char) :=
  match ungroup? Char.isDigit cs with
  | some ('0' :: _ :: _) => none
  | ds => ds

/-- Whether a sign says minus, and what follows it. -/
def splitSign : List Char → Bool × List Char
  | '-' :: cs => (true, cs)
  | '+' :: cs => (false, cs)
  | cs => (false, cs)

/-- A number in a base other than ten. -/
def based? (base : Nat) (cs : List Char) : Option Nat :=
  (ungroup? (fun c => (Document.digitValue? base c).isSome) cs).bind (Document.inBase? base)

/-- The least number that is too large for 64 bits with a sign. -/
def integerBound : Nat := Nat.pow 2 63

/-- An integer that fits in 64 bits with a sign. -/
def integer? (cs : List Char) : Option Int :=
  match cs with
  | '0' :: 'x' :: ds => ((based? 16 ds).filter (· < integerBound)).map Int.ofNat
  | '0' :: 'o' :: ds => ((based? 8 ds).filter (· < integerBound)).map Int.ofNat
  | '0' :: 'b' :: ds => ((based? 2 ds).filter (· < integerBound)).map Int.ofNat
  | cs =>
    let (negative, ds) := splitSign cs
    match (wholeDigits? ds).map Decimal.natOfDigits with
    | some n =>
      if negative then if n ≤ integerBound then some (-(n : Int)) else none
      else if n < integerBound then some n else none
    | none => none

/-- Digits before the point, digits after it if there is one, and the exponent if there is one, all
without underscores. -/
def decimal? (cs : List Char) : Option (List Char) := do
  let (body, power) := cs.span fun c => c ≠ 'e' ∧ c ≠ 'E'
  let (whole, fraction) := body.span (· ≠ '.')
  let whole ← wholeDigits? whole
  let fraction ← match fraction with
    | [] => some []
    | _ :: ds => (ungroup? Char.isDigit ds).map ('.' :: ·)
  let power ← match power with
    | [] => some []
    | _ :: ds =>
      let (negative, ds) := splitSign ds
      (ungroup? Char.isDigit ds).map fun ds => 'e' :: (if negative then '-' :: ds else ds)
  return whole ++ fraction ++ power

/-- A number with a point or an exponent, or one of the values that are no numbers. Above the
greatest value there is none. -/
def float? (cs : List Char) : Option Binary64 :=
  let (negative, body) := splitSign cs
  match String.ofList body with
  | "inf" => some (.infinite negative)
  | "nan" => some .nan
  | _ =>
    match (decimal? body).bind fun ds => Decimal.read? (String.ofList ds) with
    | some v =>
      if negative then some v.neg else if v = .infinite false then none else some v
    | none => none

/-- A number of exactly so many digits. -/
def exactly? (digits : Nat) (cs : List Char) : Option Nat :=
  if cs.length = digits ∧ cs.all Char.isDigit then some (Decimal.natOfDigits cs) else none

def daysInMonth (year month : Nat) : Nat :=
  let leap := year % 4 = 0 ∧ (year % 100 ≠ 0 ∨ year % 400 = 0)
  if month = 2 then if leap then 29 else 28
  else if month ∈ [4, 6, 9, 11] then 30
  else 31

/-- Is a word a day of the calendar? -/
def isDate (cs : List Char) : Bool :=
  match (cs.splitOn '-') with
  | [y, m, d] =>
    match exactly? 4 y, exactly? 2 m, exactly? 2 d with
    | some y, some m, some d => 1 ≤ m && m ≤ 12 && 1 ≤ d && d ≤ daysInMonth y m
    | _, _, _ => false
  | _ => false

/-- Is a word a time of the day, with a second for leaps? -/
def isTime (cs : List Char) : Bool :=
  let (clock, fraction) := cs.span (· ≠ '.')
  let fractionFits := match fraction with
    | [] => true
    | _ :: ds => !ds.isEmpty && ds.all Char.isDigit
  match clock.splitOn ':' with
  | [h, m, s] =>
    match exactly? 2 h, exactly? 2 m, exactly? 2 s with
    | some h, some m, some s => h ≤ 23 && m ≤ 59 && s ≤ 60 && fractionFits
    | _, _, _ => false
  | _ => false

/-- Is a word a distance from universal time? -/
def isOffset (cs : List Char) : Bool :=
  match cs with
  | ['Z'] | ['z'] => true
  | sign :: cs =>
    (sign = '+' || sign = '-') &&
      match cs.splitOn ':' with
      | [h, m] => (exactly? 2 h).any (· ≤ 23) && (exactly? 2 m).any (· ≤ 59)
      | _ => false
  | [] => false

/-- Is a word a time of the day, with or without an offset? -/
def isZonedTime (cs : List Char) : Bool :=
  let (time, offset) := cs.span fun c => c.isDigit || c = ':' || c = '.'
  isTime time && (offset.isEmpty || isOffset offset)

/-- Is a word a date, a time, or both with a letter between them? -/
def isMoment (cs : List Char) : Bool :=
  isDate cs || isTime cs ||
    match cs.span fun c => c ≠ 'T' ∧ c ≠ 't' with
    | (date, _ :: time) => isDate date && isZonedTime time
    | _ => false

/-- The key under which a moment is kept. No field has this name. -/
def momentKey : String := "$__toml_private_datetime"

/-- The value of a date or time. -/
def momentValue (cs : List Char) : Document :=
  .table [(some momentKey, .text (String.ofList cs))]

/-- The value of a word. -/
def wordValue? (cs : List Char) : Option Document :=
  match String.ofList cs with
  | "true" => some (.bool true)
  | "false" => some (.bool false)
  | _ =>
    match integer? cs with
    | some n => some (.number (if 0 ≤ n then some n.toNat else none) (some (Binary64.ofRat n)))
    | none =>
      match float? cs with
      | some v => some (.number none (some v))
      | none => if isMoment cs then some (momentValue cs) else none

/-- Characters of words. -/
def isWordChar (c : Char) : Bool := c.isAlphanum || c ∈ ['_', '+', '-', '.', ':']

/-- A word, and after a date perhaps a blank and a time. -/
def word? (cs : List Char) : Option (Document × List Char) :=
  let (word, rest) := cs.span isWordChar
  match isDate word, rest with
  | true, ' ' :: more =>
    let (time, rest') := more.span isWordChar
    if isZonedTime time then some (momentValue (word ++ ' ' :: time), rest')
    else some (momentValue word, rest)
  | _, rest => (wordValue? word).map fun v => (v, rest)

end ArchLint.Toml
