import ExpertAdvisor.Number.Digits

namespace ExpertAdvisor

/-!
# Exact binary64 numbers

A finite binary64 number is a signed multiple of a power of two.  It is kept in
the one canonical form, so that two finite numbers are equal exactly when their
fields are.  Rounding works in whole numbers: the magnitude is counted in the
least positive number, `2 ^ -1074`, and cut to 53 binary digits with ties to
the even neighbour.
-/

/-- A finite number: `significand · 2 ^ (scale - 1074)` with a sign. -/
structure FiniteBinary64 where
  negative : Bool
  significand : Nat
  scale : Nat
  significand_lt : significand < Nat.pow 2 53
  canonical : scale = 0 ∨ Nat.pow 2 52 ≤ significand
  scale_le : scale ≤ 2045
  deriving DecidableEq, Repr

/-- A binary64 number. -/
inductive Binary64 where
  | nan
  | infinite (negative : Bool)
  | finite (number : FiniteBinary64)
  deriving DecidableEq, Repr

namespace FiniteBinary64

/-- One, counted in the least positive number. -/
def unit : Nat := Nat.pow 2 1074

/-- The magnitude, counted in the least positive number. -/
def magnitude (number : FiniteBinary64) : Nat :=
  number.significand * Nat.pow 2 number.scale

/-- Whether the number is zero of either sign. -/
def isZero (number : FiniteBinary64) : Bool :=
  number.significand == 0

/-- Whether the number is greater than zero. -/
def isPositive (number : FiniteBinary64) : Bool :=
  !number.negative && number.significand != 0

/-- Whether a number is zero or greater; zero counts whatever its sign. -/
def isNonnegative (number : FiniteBinary64) : Bool :=
  !number.negative || number.significand == 0

/-- The integer reached by dropping the fraction. -/
def truncated (number : FiniteBinary64) : Int :=
  let whole : Int := (number.magnitude / unit : Nat)
  if number.negative then -whole else whole

/-- Whether a number has no fraction. -/
def isIntegral (number : FiniteBinary64) : Bool :=
  number.magnitude % unit == 0

/-- Zero, with either sign. -/
def zero (negative : Bool) : FiniteBinary64 where
  negative := negative
  significand := 0
  scale := 0
  significand_lt := by decide
  canonical := .inl rfl
  scale_le := by decide

end FiniteBinary64

namespace Binary64

/-- A quotient rounded to the nearest whole number, ties to the even one. -/
def divideNearest (numerator denominator : Nat) : Nat :=
  let quotient := numerator / denominator
  let rest := 2 * (numerator % denominator)
  if rest < denominator then quotient
  else if denominator < rest then quotient + 1
  else quotient + quotient % 2

/-- A number with the given fields, or infinity where none is that large. -/
def ofFields
    (negative : Bool)
    (significand scale : Nat) : Binary64 :=
  if fields :
      significand < Nat.pow 2 53 ∧ (scale = 0 ∨ Nat.pow 2 52 ≤ significand) ∧ scale ≤ 2045 then
    .finite ⟨negative, significand, scale, fields.1, fields.2.1, fields.2.2⟩
  else
    .infinite negative

/-- The number nearest to a signed quotient. -/
def ofQuotient
    (negative : Bool)
    (numerator denominator : Nat) : Binary64 :=
  let units := numerator * FiniteBinary64.unit
  let scale := (units / denominator).log2 - 52
  let significand := divideNearest units (denominator * Nat.pow 2 scale)
  if significand < Nat.pow 2 53 then
    ofFields negative significand scale
  else
    ofFields negative (Nat.pow 2 52) (scale + 1)

/-- The number nearest to an integer. -/
def ofInt (integer : Int) : Binary64 :=
  ofQuotient (decide (integer < 0)) integer.natAbs 1

/-- The number nearest to `digits · 10 ^ exponent`; exponents far out of range are not expanded. -/
def ofDecimal
    (negative : Bool)
    (digits : Nat)
    (exponent : Int) : Binary64 :=
  let leading := (Number.decimalLength digits : Int) + exponent
  if digits = 0 ∨ leading < -330 then
    .finite (FiniteBinary64.zero negative)
  else if 310 < leading then
    .infinite negative
  else if exponent < 0 then
    ofQuotient negative digits (Nat.pow 10 exponent.natAbs)
  else
    ofQuotient negative (digits * Nat.pow 10 exponent.natAbs) 1

/-- The number itself, when it is finite. -/
def finite? : Binary64 → Option FiniteBinary64
  | .finite number => some number
  | .nan | .infinite _ => none

/-- Whether a number is finite. -/
def isFinite (number : Binary64) : Bool :=
  number.finite?.isSome

/-- A number's fields come back from packing them. -/
theorem ofFields_fields (number : FiniteBinary64) :
    ofFields number.negative number.significand number.scale = .finite number := by
  unfold ofFields
  exact dif_pos ⟨number.significand_lt, number.canonical, number.scale_le⟩

end Binary64

end ExpertAdvisor
