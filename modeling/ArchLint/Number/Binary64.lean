/-!
The numbers of the binary64 format, computed exactly. A finite value is a sign, a significand
below `2 ^ 53` and a power of two not below `2 ^ (-1074)`; an operation takes the exact rational
result and rounds it once, to the nearest value and on a tie to the even significand.
-/

namespace ArchLint

/-- `⌊num / den⌋` moved up by one when the remainder is past the half, or on it and the quotient
odd. -/
def roundDivEven (num den : Nat) : Nat :=
  let q := num / den
  let r := num % den
  if den < 2 * r ∨ (2 * r = den ∧ q % 2 = 1) then q + 1 else q

/-- `2 ^ e` for any integer `e`. -/
def twoPow (e : Int) : Rat := if 0 ≤ e then Nat.pow 2 e.toNat else 1 / Nat.pow 2 (-e).toNat

/-- `10 ^ e` for any integer `e`. -/
def tenPow (e : Int) : Rat := if 0 ≤ e then Nat.pow 10 e.toNat else 1 / Nat.pow 10 (-e).toNat

/-- A value of the format; `finite s m e` stands for `± m * 2 ^ e`. -/
inductive Binary64 where
  | nan
  | infinite (negative : Bool)
  | finite (negative : Bool) (significand : Nat) (exponent : Int)
  deriving DecidableEq, Repr

namespace Binary64

/-- The least exponent of the format. -/
def minExponent : Int := -1074

/-- The exponent at which a quotient is rounded, so that 53 bits remain where the format has room. -/
def gridExponent (num den : Nat) : Int :=
  let e := (num.log2 : Int) - (den.log2 : Int) - 52
  let e := if twoPow (e + 52) * den ≤ num then e else e - 1
  max e minExponent

/-- Significand and exponent of the value nearest to `num / den`. -/
def nearestParts (num den : Nat) : Nat × Int :=
  let e := gridExponent num den
  let m := if 0 ≤ e then roundDivEven num (den * Nat.pow 2 e.toNat)
    else roundDivEven (num * Nat.pow 2 (-e).toNat) den
  if m = Nat.pow 2 53 then (Nat.pow 2 52, e + 1) else (m, e)

/-- The value nearest to a rational number; what is too large is infinite. -/
def ofRat (q : Rat) : Binary64 :=
  let (m, e) := nearestParts q.num.natAbs q.den
  if 1024 < (m.log2 : Int) + e + 1 then infinite (q.num < 0)
  else if m = 0 then finite (q.num < 0) 0 minExponent
  else finite (q.num < 0) m e

/-- The rational number a finite value stands for; the others count as zero. -/
def toRat : Binary64 → Rat
  | finite s m e => (if s then -1 else 1) * (m * twoPow e)
  | _ => 0

/-- Rounding as a function on the rational numbers. -/
def nearest (q : Rat) : Rat := (ofRat q).toRat

def ofNat (n : Nat) : Binary64 := ofRat n

def zero : Binary64 := finite false 0 minExponent

def one : Binary64 := ofNat 1

def neg : Binary64 → Binary64
  | nan => nan
  | infinite s => infinite !s
  | finite s m e => finite (!s) m e

/-- The same magnitude with the given sign. -/
def withSign (negative : Bool) : Binary64 → Binary64
  | nan => nan
  | infinite _ => infinite negative
  | finite _ m e => finite negative m e

def isNegative : Binary64 → Bool
  | nan => false
  | infinite s => s
  | finite s _ _ => s

def isFinite : Binary64 → Bool
  | finite .. => true
  | _ => false

def isZero : Binary64 → Bool
  | finite _ m _ => m = 0
  | _ => false

def mul (a b : Binary64) : Binary64 :=
  let s := a.isNegative != b.isNegative
  match a, b with
  | nan, _ | _, nan => nan
  | infinite _, y => if y.isZero then nan else infinite s
  | x, infinite _ => if x.isZero then nan else infinite s
  | x, y => withSign s (ofRat (x.toRat * y.toRat))

def div (a b : Binary64) : Binary64 :=
  let s := a.isNegative != b.isNegative
  match a, b with
  | nan, _ | _, nan => nan
  | infinite _, infinite _ => nan
  | infinite _, _ => infinite s
  | _, infinite _ => finite s 0 minExponent
  | x, y =>
    if y.isZero then if x.isZero then nan else infinite s
    else withSign s (ofRat (x.toRat / y.toRat))

/-- Strict order; a value that is no number compares with nothing. -/
def lt : Binary64 → Binary64 → Bool
  | nan, _ | _, nan => false
  | infinite s, infinite t => s && !t
  | infinite s, _ => s
  | _, infinite t => !t
  | x, y => x.toRat < y.toRat

/-- Numeric equality: both zeros are equal, and no number is unequal to itself alone. -/
def eqv : Binary64 → Binary64 → Bool
  | nan, _ | _, nan => false
  | infinite s, infinite t => s = t
  | infinite _, _ | _, infinite _ => false
  | x, y => x.toRat = y.toRat

def le (a b : Binary64) : Bool := lt a b || eqv a b

end Binary64

end ArchLint
