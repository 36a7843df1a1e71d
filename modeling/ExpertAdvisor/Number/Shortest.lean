import ExpertAdvisor.Number.Binary64

namespace ExpertAdvisor.FiniteBinary64

/-!
# Shortest decimal digits

The shortest decimal of a number is the one with the fewest digits among those
that round back to it, and the nearest of these.  All reals between the two
halfway points to the number's neighbours round to it; the halfway points
themselves do when the significand is even.  For each number of digits only the
two multiples of the decimal unit around the number need to be tried.
-/

/-- A positive decimal `digits · 10 ^ exponent`. -/
structure Decimal where
  digits : Nat
  exponent : Int
  deriving Repr, DecidableEq

/-- The reals that round to a number, counted in quarters of the least positive number. -/
structure RoundingInterval where
  lower : Nat
  upper : Nat
  closed : Bool
  deriving Repr, DecidableEq

/-- Four times one, counted in quarters of the least positive number. -/
def quarterUnit : Nat := 4 * unit

/-- The interval between the halfway points to the number's neighbours. -/
def roundingInterval (number : FiniteBinary64) : RoundingInterval :=
  let gap := Nat.pow 2 number.scale
  let below := if number.significand = Nat.pow 2 52 ∧ number.scale ≠ 0 then gap else 2 * gap
  { lower := 4 * number.magnitude - below
    upper := 4 * number.magnitude + 2 * gap
    closed := number.significand % 2 == 0 }

/-- A decimal's value as a quotient, counted in quarters of the least positive number. -/
def Decimal.quarters (decimal : Decimal) : Nat × Nat :=
  if decimal.exponent < 0 then
    (decimal.digits * quarterUnit, Nat.pow 10 decimal.exponent.natAbs)
  else
    (decimal.digits * Nat.pow 10 decimal.exponent.natAbs * quarterUnit, 1)

/-- Whether a decimal lies in an interval, which holds its ends only where it is closed. -/
def RoundingInterval.contains
    (interval : RoundingInterval)
    (decimal : Decimal) : Bool :=
  let (numerator, denominator) := decimal.quarters
  if interval.closed then
    interval.lower * denominator ≤ numerator && numerator ≤ interval.upper * denominator
  else
    interval.lower * denominator < numerator && numerator < interval.upper * denominator

/-- The greatest multiple of `10 ^ exponent` that does not exceed the number's magnitude. -/
def floorDigits
    (number : FiniteBinary64)
    (exponent : Int) : Nat :=
  if exponent < 0 then
    number.magnitude * Nat.pow 10 exponent.natAbs / unit
  else
    number.magnitude / (unit * Nat.pow 10 exponent.natAbs)

/-- Whether the upper of two consecutive multiples is nearer to the number than the lower. -/
def isUpperNearer
    (number : FiniteBinary64)
    (lower : Decimal) : Bool :=
  let middle : Decimal := ⟨10 * lower.digits + 5, lower.exponent - 1⟩
  let (numerator, denominator) := middle.quarters
  numerator < 4 * number.magnitude * denominator

/-- The nearer of the two neighbours on a decimal grid that round to the number. -/
def neighbour?
    (number : FiniteBinary64)
    (exponent : Int) : Option Decimal :=
  let interval := number.roundingInterval
  let lower : Decimal := ⟨number.floorDigits exponent, exponent⟩
  let upper : Decimal := ⟨lower.digits + 1, exponent⟩
  match interval.contains lower, interval.contains upper with
  | true, true => some (if number.isUpperNearer lower then upper else lower)
  | true, false => some lower
  | false, true => some upper
  | false, false => none

/-- The least count of decimal places that brings a magnitude below one to one or more. -/
def leadingPlaces
    (magnitude : Nat) :
    Nat → Nat
  | 0 => 0
  | places + 1 =>
      if unit ≤ magnitude then 0 else leadingPlaces (magnitude * 10) places + 1

/-- The position before the first digit: `10 ^ position` is the least power above the number. -/
def decimalPosition (number : FiniteBinary64) : Int :=
  if unit ≤ number.magnitude then
    Number.decimalLength (number.magnitude / unit)
  else
    1 - (leadingPlaces number.magnitude 400 : Nat)

/-- Moves trailing zeros of the digits into the exponent. -/
def Decimal.withoutTrailingZeros
    (fuel : Nat)
    (decimal : Decimal) : Decimal :=
  match fuel with
  | 0 => decimal
  | more + 1 =>
      if decimal.digits ≠ 0 ∧ decimal.digits % 10 = 0 then
        Decimal.withoutTrailingZeros more ⟨decimal.digits / 10, decimal.exponent + 1⟩
      else
        decimal

/-- The first grid, from coarse to fine, on which some neighbour rounds to the number. -/
def shortestFrom
    (number : FiniteBinary64)
    (position : Int)
    (count : Nat) :
    Nat → Decimal
  | 0 => ⟨number.floorDigits (position - count), position - count⟩
  | more + 1 =>
      match number.neighbour? (position - count) with
      | some decimal => decimal
      | none => shortestFrom number position (count + 1) more

/-- The shortest decimal that rounds to a number other than zero. -/
def shortest (number : FiniteBinary64) : Decimal :=
  (shortestFrom number number.decimalPosition 1 17).withoutTrailingZeros 20

end ExpertAdvisor.FiniteBinary64
