import MailMerge.Number.Decimal

/-!
# `MailMerge.Number.Shortest`: the fewest digits that read back

The reals that round to a finite number form an interval around it, whose ends belong to it exactly
when the mantissa is even. `shortest` gives the decimal with the fewest digits in that interval, and
of those the nearest to the number; `Tie` says which of two equally near ones.

The interval is kept in units of `2 ^ (exponent - 2)`, in which the number is `4 * mantissa`, the
upper end is two units away, and the lower end is two units away or, where the gap below is half as
wide, one.
-/

set_option autoImplicit false

namespace MailMerge.Number

/-- The choice between two equally near decimals. -/
inductive Tie where
  | up
  | even
deriving DecidableEq, Repr

/-- The reals that round to a number, in some unit. -/
structure RoundingInterval where
  low : Nat
  value : Nat
  high : Nat
  inclusive : Bool

/-- Whether the interval holds a number of units. -/
def RoundingInterval.contains (r : RoundingInterval) (n : Nat) : Bool :=
  if r.inclusive then r.low ≤ n && n ≤ r.high else r.low < n && n < r.high

/-- The interval of a mantissa and exponent, in units of `2 ^ (exponent - 2)`. -/
def roundingInterval (mantissa : Nat) (exponent : Int) : RoundingInterval :=
  -- Below a power of two numbers lie twice as close as above it.
  let below := if mantissa = Nat.pow 2 52 ∧ Binary64.minExponent < exponent then 1 else 2
  ⟨4 * mantissa - below, 4 * mantissa, 4 * mantissa + 2, mantissa % 2 = 0⟩

/-- The interval and the decimal step `10 ^ place` in one common unit. -/
def onGrid (r : RoundingInterval) (exponent place : Int) : RoundingInterval × Nat :=
  let unit := exponent - 2
  let factor := Nat.pow 2 unit.toNat * Nat.pow 10 (-place).toNat
  let step := Nat.pow 2 (-unit).toNat * Nat.pow 10 place.toNat
  (⟨r.low * factor, r.value * factor, r.high * factor, r.inclusive⟩, step)

/-- The count of steps nearest to the value, of those inside the interval. -/
def nearestOnGrid? (tie : Tie) (r : RoundingInterval) (step : Nat) : Option Nat :=
  -- The grid points next to the value, below and above, are the only candidates.
  let count := r.value / step
  let down := r.contains (count * step)
  let up := r.contains ((count + 1) * step)
  let twice := 2 * (r.value - count * step)
  if down && up then
    if twice < step then some count
    else if step < twice then some (count + 1)
    else
      match tie with
      | .up => some (count + 1)
      | .even => some (count + count % 2)
  else if down then some count
  else if up then some (count + 1)
  else none

/-- Tries grids from `10 ^ place` downwards. -/
def searchGrids (tie : Tie) (r : RoundingInterval) (exponent : Int) : Nat → Int → Nat × Int
  | 0, place => (0, place)
  | tries + 1, place =>
    let (scaled, step) := onGrid r exponent place
    match nearestOnGrid? tie scaled step with
    | some count => (count, place)
    | none => searchGrids tie r exponent tries (place - 1)

/-- Moves zeros at the end of the digits into the exponent. -/
def dropZeros : Nat → Nat → Int → Nat × Int
  | 0, digits, place => (digits, place)
  | tries + 1, digits, place =>
    if digits % 10 = 0 then dropZeros tries (digits / 10) (place + 1) else (digits, place)

/-- The power of ten at or just above the leading digit of `mantissa * 2 ^ exponent`. -/
def leadingPlace (mantissa : Nat) (exponent : Int) : Int :=
  (mantissa.log2 + exponent) * 30103 / 100000 + 1

/-- The shortest digits and exponent of a finite number that is not zero. Seventeen digits always
suffice, and the first grid tried may be above the leading digit by two places. -/
def shortest (tie : Tie) (mantissa : Nat) (exponent : Int) : Nat × Int :=
  let interval := roundingInterval mantissa exponent
  let (digits, place) := searchGrids tie interval exponent 20 (leadingPlace mantissa exponent)
  if digits = 0 then (0, 0) else dropZeros 20 digits place

/-- The decimal by which a finite number is written. -/
def shortestDecimal (tie : Tie) (negative : Bool) (mantissa : Nat) (exponent : Int) : Decimal :=
  let (digits, place) := if mantissa = 0 then (0, 0) else shortest tie mantissa exponent
  ⟨negative, digits, place⟩

end MailMerge.Number
