import ExpertAdvisor.Proofs.Number.ShortestDecimal

namespace ExpertAdvisor.FiniteBinary64

/-!
# Nearest numbers

The rounding interval of a number lies between the halfway points to all other
numbers.  So the number is the nearest one to whatever its interval reaches
over, and where another number is equally near its significand is even.
-/

/-- One, or minus one for negative numbers. -/
def sign (number : FiniteBinary64) : ℚ :=
  if number.negative then -1 else 1

/-- The value of a number with its sign. -/
def value (number : FiniteBinary64) : ℚ :=
  number.sign * (number.magnitude / unit)

variable {number other : FiniteBinary64}

/-! Halfway points between magnitudes. -/

/-- Another number's value in a number's direction, counted in the least positive number. -/
def along (number other : FiniteBinary64) : ℚ :=
  number.sign * (other.value * unit)

end ExpertAdvisor.FiniteBinary64
