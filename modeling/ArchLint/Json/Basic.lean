import ArchLint.Number.Decimal

/-!
Values of JSON documents. Numbers are kept as they are written, entries of a table in their order
and with repetitions. A string with an unpaired surrogate denotes no text, yet may stand where
nobody reads it.
-/

namespace ArchLint

/-- A number as it is written: digits before and after the point, and an exponent with its sign. -/
structure Numeral where
  negative : Bool := false
  whole : List Char
  fraction : List Char := []
  exponent : Option (Bool × List Char) := none
  deriving DecidableEq, Repr

namespace Numeral

/-- A number that is written without point and exponent. -/
def isInteger (n : Numeral) : Bool := n.fraction.isEmpty && n.exponent.isNone

/-- Numbers of 64 bits without a sign. -/
def word : Nat := Nat.pow 2 64

/-- The natural number below `2 ^ 64` that is written. -/
def natural? (n : Numeral) : Option Nat :=
  let value := Decimal.natOfDigits n.whole
  if n.isInteger ∧ !n.negative ∧ value < word then some value else none

/-- Leading digits as one number below `2 ^ 64`; how many digits of the integral part did not fit. -/
def leadWhole (sig : Nat) : List Char → Nat × Nat
  | [] => (sig, 0)
  | d :: ds =>
    let next := 10 * sig + (d.toNat - 48)
    if next < word then leadWhole next ds else (sig, ds.length + 1)

/-- Goes on with the digits after the point; how many of them were taken. -/
def leadFraction (sig taken : Nat) : List Char → Nat × Nat
  | [] => (sig, taken)
  | d :: ds =>
    let next := 10 * sig + (d.toNat - 48)
    if next < word then leadFraction next (taken + 1) ds else (sig, taken)

/-- `f * 10 ^ e`, by one rounded operation for each power of at most 308. -/
def scaled (f : Binary64) (e : Int) : (fuel : Nat) → Option Binary64
  | 0 => some f
  | fuel + 1 =>
    if e.natAbs ≤ 308 then
      let power := Binary64.ofNat (Nat.pow 10 e.natAbs)
      if 0 ≤ e then
        let f := f.mul power
        if f.isFinite then some f else none
      else some (f.div power)
    else if f.isZero then some f
    else if 0 < e then none
    else scaled (f.div (Binary64.ofNat (Nat.pow 10 308))) (e + 308) fuel

/-- The binary64 value of a number: its leading digits as one significand, scaled by the power of
ten; nothing when that is too large. -/
def binary64? (n : Numeral) : Option Binary64 :=
  let (sig, skipped) := leadWhole 0 n.whole
  let (sig, taken) := leadFraction sig 0 n.fraction
  let start : Int := skipped - taken
  let magnitude : Option Binary64 := match n.exponent with
    | none => if n.isInteger ∧ skipped = 0 then some (Binary64.ofNat sig)
      else scaled (Binary64.ofNat sig) start 8
    | some (negative, ds) =>
      let e := Decimal.natOfDigits ds
      if e < Nat.pow 2 31 then
        scaled (Binary64.ofNat sig) (if negative then start - e else start + e) 8
      else if sig = 0 ∨ negative then some Binary64.zero else none
  magnitude.map fun f => if n.negative then f.neg else f

def ofNat (n : Nat) : Numeral := { whole := Decimal.digits n }

end Numeral

inductive Json where
  | null
  | bool (b : Bool)
  | number (n : Numeral)
  | text (s : String)
  | unpaired
  | list (items : List Json)
  | table (entries : List (String × Json))
  deriving Repr

end ArchLint
