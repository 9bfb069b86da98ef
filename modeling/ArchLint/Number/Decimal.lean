import ArchLint.Number.Binary64

/-!
Decimal text of binary64 values. Written in full, a value takes the fewest digits that read back
as that value, and of those the nearest; it is always positional. Written with fixed places, the
exact value is rounded, a tie to the even digit. Read, the decimal is rounded once.
-/

namespace ArchLint.Decimal

/-- Decimal digits of a number, as characters. -/
def digits (n : Nat) : List Char := Nat.toDigits 10 n

/-- The least `k` with `1 ≤ v * 10 ^ k`, up to a bound, for `v < 1`. -/
def leadingZeros (v : Rat) : Nat → Nat
  | 0 => 0
  | fuel + 1 => if 1 ≤ v then 0 else leadingZeros (v * 10) fuel + 1

/-- The power of ten of the first digit of a positive number. -/
def magnitude (v : Rat) : Int :=
  if 1 ≤ v then (digits v.floor.toNat).length - 1 else -(leadingZeros v 400 : Int)

/-- The reals that round to `m * 2 ^ e`: lower end, upper end, and whether the ends count. -/
structure Interval where
  lo : Rat
  hi : Rat
  closed : Bool

namespace Interval

/-- Half a step to either side; below a power of two the steps are half as long. -/
def of (m : Nat) (e : Int) : Interval :=
  let step := twoPow e
  let below := if m = Nat.pow 2 52 ∧ Binary64.minExponent < e then step / 4 else step / 2
  { lo := m * step - below, hi := m * step + step / 2, closed := m % 2 = 0 }

def holds (i : Interval) (q : Rat) : Bool :=
  if i.closed then decide (i.lo ≤ q) && decide (q ≤ i.hi) else decide (i.lo < q) && decide (q < i.hi)

end Interval

/-- The point of the grid of multiples of `10 ^ p` that lies in the interval and nearest to `v`. -/
def onGrid? (v : Rat) (i : Interval) (p : Int) : Option Nat :=
  let unit := tenPow p
  let low := (v / unit).floor.toNat
  let high := low + 1
  match i.holds (low * unit), i.holds (high * unit) with
  | true, true =>
    let a := v - low * unit
    let b := high * unit - v
    some (if a < b ∨ (a = b ∧ low % 2 = 0) then low else high)
  | true, false => some low
  | false, true => some high
  | false, false => none

/-- The first grid with a point in the interval, from coarse to fine. -/
def search (v : Rat) (i : Interval) (p : Int) : Nat → Nat × Int
  | 0 => ((v / tenPow p).floor.toNat, p)
  | fuel + 1 =>
    match onGrid? v i p with
    | some d => (d, p)
    | none => search v i (p - 1) fuel

/-- Digits `d` and power `p` of the shortest decimal `d * 10 ^ p` that rounds to `m * 2 ^ e`. -/
def shortest (m : Nat) (e : Int) : Nat × Int :=
  let v : Rat := m * twoPow e
  search v (Interval.of m e) (magnitude v + 1) 20

/-- Positional text of `d * 10 ^ p`. -/
def positional (d : Nat) (p : Int) : List Char :=
  let ds := digits d
  if 0 ≤ p then ds ++ List.replicate p.toNat '0'
  else
    let places := (-p).toNat
    let ds := List.replicate (places + 1 - ds.length) '0' ++ ds
    let whole := ds.take (ds.length - places)
    let fraction := (ds.drop (ds.length - places)).reverse.dropWhile (· = '0') |>.reverse
    if fraction.isEmpty then whole else whole ++ '.' :: fraction

/-- The full text of a value. -/
def render : Binary64 → String
  | .nan => "NaN"
  | .infinite s => if s then "-inf" else "inf"
  | .finite s m e =>
    let body := if m = 0 then ['0'] else
      let (d, p) := shortest m e
      positional d p
    String.ofList (if s then '-' :: body else body)

/-- The text of a value with exactly `places` digits after the point. -/
def renderFixed (places : Nat) : Binary64 → String
  | .nan => "NaN"
  | .infinite s => if s then "-inf" else "inf"
  | .finite s m e =>
    let v : Rat := m * twoPow e * Nat.pow 10 places
    let ds := digits (roundDivEven v.num.natAbs v.den)
    let ds := List.replicate (places + 1 - ds.length) '0' ++ ds
    let whole := ds.take (ds.length - places)
    let text := if places = 0 then whole else whole ++ '.' :: ds.drop (ds.length - places)
    String.ofList (if s then '-' :: text else text)

/-- The value of decimal digits. -/
def natOfDigits (ds : List Char) : Nat := ds.foldl (fun n c => 10 * n + (c.toNat - '0'.toNat)) 0

/-- The value nearest to `n * 10 ^ p`; powers far outside the format are not computed. -/
def nearestScaled (n : Nat) (p : Int) : Binary64 :=
  let top : Int := (digits n).length + p
  if n = 0 then Binary64.zero
  else if 400 < top then .infinite false
  else if top < -400 then Binary64.zero
  else Binary64.ofRat (n * tenPow p)

/-- Sign of an exponent and its digits, of which there is at least one. -/
def readExponent? (cs : List Char) : Option Int :=
  let (negative, ds) := match cs with
    | '-' :: ds => (true, ds)
    | '+' :: ds => (false, ds)
    | ds => (false, ds)
  if ds.isEmpty ∨ ¬ ds.all Char.isDigit then none
  else if negative then some (-(natOfDigits ds : Int)) else some (natOfDigits ds)

/-- Reads digits with an optional point among or beside them and an optional exponent. -/
def readUnsigned? (cs : List Char) : Option Binary64 :=
  let (body, power) := match cs.span fun c => c ≠ 'e' ∧ c ≠ 'E' with
    | (body, []) => (body, some 0)
    | (body, _ :: power) => (body, readExponent? power)
  let (whole, fraction) := match body.span (· ≠ '.') with
    | (whole, []) => (whole, [])
    | (whole, _ :: fraction) => (whole, fraction)
  if (whole ++ fraction).isEmpty ∨ ¬ (whole ++ fraction).all Char.isDigit then none
  else power.map fun p => nearestScaled (natOfDigits (whole ++ fraction)) (p - fraction.length)

/-- Reads a decimal with an optional sign. -/
def read? (text : String) : Option Binary64 :=
  match text.toList with
  | '-' :: cs => (readUnsigned? cs).map Binary64.neg
  | '+' :: cs => readUnsigned? cs
  | cs => readUnsigned? cs

end ArchLint.Decimal
