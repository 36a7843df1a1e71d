import ExpertAdvisor.Number.Shortest
import Mathlib

namespace ExpertAdvisor

/-!
# Rounding to binary64 numbers

Every quotient in the rounding interval of a number is rounded to this number.
The interval reaches half a gap up and, below a power of two, only a quarter of
a gap down; its ends belong to it when the significand is even.
-/

namespace Binary64

/-- A quotient within half of a whole number, or half away from an even one, rounds to it. -/
theorem divideNearest_eq
    {numerator denominator whole : Nat}
    (positive : 0 < denominator)
    (fromBelow : 2 * (whole * denominator) ≤ 2 * numerator + denominator)
    (fromAbove : 2 * numerator ≤ 2 * (whole * denominator) + denominator)
    (tie : whole % 2 = 0 ∨
      2 * (whole * denominator) < 2 * numerator + denominator ∧
        2 * numerator < 2 * (whole * denominator) + denominator) :
    divideNearest numerator denominator = whole := by
  have split := Nat.div_add_mod' numerator denominator
  have restSmall := Nat.mod_lt numerator positive
  rw [divideNearest]
  generalize numerator / denominator = quotient at split ⊢
  generalize numerator % denominator = rest at split restSmall ⊢
  have notAbove : quotient ≤ whole := by
    by_contra above
    have next := Nat.mul_le_mul_right denominator (Nat.lt_of_not_le above)
    rw [Nat.succ_mul] at next
    omega
  have notFarBelow : whole ≤ quotient + 1 := by
    by_contra below
    have next := Nat.mul_le_mul_right denominator (Nat.lt_of_not_le below)
    rw [Nat.succ_mul, Nat.add_mul] at next
    omega
  obtain rfl | rfl : quotient = whole ∨ whole = quotient + 1 := by omega
  · split_ifs <;> omega
  · rw [Nat.add_mul] at fromBelow fromAbove tie
    split_ifs <;> omega

end Binary64

namespace FiniteBinary64

/-- A quotient in an interval; the ends count when the interval is closed. -/
def RoundingInterval.Includes
    (interval : RoundingInterval)
    (numerator denominator : Nat) : Prop :=
  if interval.closed then
    interval.lower * denominator ≤ numerator ∧ numerator ≤ interval.upper * denominator
  else
    interval.lower * denominator < numerator ∧ numerator < interval.upper * denominator

/-- An interval contains a decimal when it includes its quarters. -/
theorem RoundingInterval.contains_iff
    {interval : RoundingInterval}
    {decimal : Decimal} :
    interval.contains decimal = true ↔
      interval.Includes decimal.quarters.1 decimal.quarters.2 := by
  rw [contains, Includes]
  cases interval.closed <;> simp

/--
What the rounding interval says about a quotient, counted in the number's gap:
it is at most half a gap away, and a quarter below a power of two.
-/
structure Near
    (number : FiniteBinary64)
    (units denominator : Nat) : Prop where
  fromBelow : 2 * (number.significand * (Nat.pow 2 number.scale * denominator)) ≤
    2 * units + Nat.pow 2 number.scale * denominator
  fromAbove : 2 * units ≤
    2 * (number.significand * (Nat.pow 2 number.scale * denominator)) +
      Nat.pow 2 number.scale * denominator
  tie : number.significand % 2 = 0 ∨
    2 * (number.significand * (Nat.pow 2 number.scale * denominator)) <
        2 * units + Nat.pow 2 number.scale * denominator ∧
      2 * units < 2 * (number.significand * (Nat.pow 2 number.scale * denominator)) +
        Nat.pow 2 number.scale * denominator
  belowPower : number.significand = Nat.pow 2 52 → number.scale ≠ 0 →
    4 * (number.significand * (Nat.pow 2 number.scale * denominator)) ≤
      4 * units + Nat.pow 2 number.scale * denominator

/-- What an interval includes is near its number. -/
theorem near_of_includes
    {number : FiniteBinary64}
    {units denominator : Nat}
    (notZero : number.significand ≠ 0)
    (included : number.roundingInterval.Includes (4 * units) denominator) :
    Near number units denominator := by
  have product : number.magnitude * denominator =
      number.significand * (Nat.pow 2 number.scale * denominator) := Nat.mul_assoc _ _ _
  have significant : Nat.pow 2 number.scale * denominator ≤
      number.significand * (Nat.pow 2 number.scale * denominator) :=
    Nat.le_mul_of_pos_left _ (Nat.pos_of_ne_zero notZero)
  rw [RoundingInterval.Includes, roundingInterval] at included
  simp only [Nat.sub_mul, Nat.add_mul, Nat.mul_assoc, product, ite_mul, beq_iff_eq] at included
  split_ifs at included <;> constructor <;>
    generalize number.significand * (Nat.pow 2 number.scale * denominator) = whole
      at included significant ⊢ <;>
    generalize Nat.pow 2 number.scale * denominator = gap at included significant ⊢ <;> omega

end FiniteBinary64

namespace Binary64

/-- The whole part of a quotient between two powers of two has the lower one's logarithm. -/
theorem log2_div_eq
    {units denominator exponent : Nat}
    (positive : 0 < denominator)
    (fromBelow : 2 ^ exponent * denominator ≤ units)
    (fromAbove : units < 2 ^ (exponent + 1) * denominator) :
    (units / denominator).log2 = exponent := by
  have least : 2 ^ exponent ≤ units / denominator :=
    (Nat.le_div_iff_mul_le positive).mpr fromBelow
  have notZero : units / denominator ≠ 0 :=
    Nat.ne_of_gt (Nat.lt_of_lt_of_le (Nat.two_pow_pos exponent) least)
  exact (Nat.log2_eq_iff notZero).mpr ⟨least, (Nat.div_lt_iff_lt_mul positive).mpr fromAbove⟩

section Quotient

variable {number : FiniteBinary64} {negative : Bool} {numerator denominator : Nat}

/-- A quotient that is cut at the number's own scale is rounded to the number. -/
theorem ofQuotient_of_scale
    (positive : 0 < denominator)
    (near : number.Near (numerator * FiniteBinary64.unit) denominator)
    (scale : (numerator * FiniteBinary64.unit / denominator).log2 - 52 = number.scale) :
    ofQuotient number.negative numerator denominator = .finite number := by
  have gapPositive : 0 < Nat.pow 2 number.scale * denominator :=
    Nat.mul_pos (Nat.two_pow_pos number.scale) positive
  have rounded :
      divideNearest (numerator * FiniteBinary64.unit) (denominator * Nat.pow 2 number.scale) =
        number.significand := by
    rw [Nat.mul_comm denominator]
    exact divideNearest_eq gapPositive near.fromBelow near.fromAbove near.tie
  simp only [ofQuotient, scale, rounded, if_pos number.significand_lt]
  exact ofFields_fields number

/-- A quotient just below a power of two is cut one scale finer, and carried over. -/
theorem ofQuotient_of_carry
    (positive : 0 < denominator)
    (near : number.Near (numerator * FiniteBinary64.unit) denominator)
    (power : number.significand = Nat.pow 2 52)
    (below : numerator * FiniteBinary64.unit <
      number.significand * (Nat.pow 2 number.scale * denominator))
    (scale : (numerator * FiniteBinary64.unit / denominator).log2 - 52 + 1 = number.scale) :
    ofQuotient number.negative numerator denominator = .finite number := by
  generalize finer : (numerator * FiniteBinary64.unit / denominator).log2 - 52 = less at scale
  have gap : Nat.pow 2 number.scale * denominator = 2 * (denominator * Nat.pow 2 less) := by
    rw [← scale, Nat.pow_eq, Nat.pow_eq, Nat.pow_succ]
    ring
  have quarter := near.belowPower power (by omega)
  have gapPositive : 0 < denominator * Nat.pow 2 less :=
    Nat.mul_pos positive (Nat.two_pow_pos less)
  have rounded :
      divideNearest (numerator * FiniteBinary64.unit) (denominator * Nat.pow 2 less) =
        Nat.pow 2 53 := by
    rw [power, gap] at quarter below
    norm_num at quarter below
    refine divideNearest_eq gapPositive ?_ ?_ (.inl (by decide)) <;> norm_num <;> omega
  simp only [ofQuotient, finer, rounded, if_neg (Nat.lt_irrefl _), scale, ← power]
  exact ofFields_fields number

/-! Where the quotient is cut. -/

theorem pow_add_scale (exponent : Nat) :
    2 ^ (exponent + number.scale) * denominator =
      2 ^ exponent * (Nat.pow 2 number.scale * denominator) := by
  rw [Nat.pow_add, Nat.mul_assoc, Nat.pow_eq]

/-- What is near a number lies below the end of its binade. -/
theorem below_of_near
    (positive : 0 < denominator)
    (near : number.Near (numerator * FiniteBinary64.unit) denominator) :
    numerator * FiniteBinary64.unit < 2 ^ (52 + number.scale + 1) * denominator := by
  have fromAbove := near.fromAbove
  have atMost := Nat.mul_le_mul_right (Nat.pow 2 number.scale * denominator)
    (Nat.le_sub_one_of_lt number.significand_lt)
  have gapPositive : 0 < Nat.pow 2 number.scale * denominator :=
    Nat.mul_pos (Nat.two_pow_pos number.scale) positive
  rw [Nat.add_right_comm, pow_add_scale]
  rw [@Nat.pow_eq 2 53] at atMost
  omega

/-- What is near a number of the least scale has this scale. -/
theorem scale_of_subnormal
    (positive : 0 < denominator)
    (near : number.Near (numerator * FiniteBinary64.unit) denominator)
    (least : number.scale = 0) :
    (numerator * FiniteBinary64.unit / denominator).log2 - 52 = number.scale := by
  have below := below_of_near positive near
  rw [least] at below
  have quotientLess : numerator * FiniteBinary64.unit / denominator < 2 ^ 53 :=
    (Nat.div_lt_iff_lt_mul positive).mpr below
  have logarithm : (numerator * FiniteBinary64.unit / denominator).log2 < 53 := by
    by_cases none : numerator * FiniteBinary64.unit / denominator = 0
    · rw [none]
      decide
    · exact (Nat.log2_lt none).mpr quotientLess
  omega

/-- Only the least significand is near a quotient below its power of two. -/
theorem significand_of_below
    (near : number.Near (numerator * FiniteBinary64.unit) denominator)
    (normal : Nat.pow 2 52 ≤ number.significand)
    (below : numerator * FiniteBinary64.unit < 2 ^ (52 + number.scale) * denominator) :
    number.significand = Nat.pow 2 52 := by
  refine Nat.le_antisymm (Nat.le_of_not_lt fun more => ?_) normal
  have fromBelow := near.fromBelow
  have next := Nat.mul_le_mul_right (Nat.pow 2 number.scale * denominator) more
  rw [Nat.succ_mul, @Nat.pow_eq 2 52] at next
  rw [pow_add_scale] at below
  omega

/-- Below the least significand, what is near a number has a scale one less. -/
theorem scale_of_below
    (positive : 0 < denominator)
    (near : number.Near (numerator * FiniteBinary64.unit) denominator)
    (normal : number.scale ≠ 0)
    (isLeast : number.significand = Nat.pow 2 52)
    (below : numerator * FiniteBinary64.unit < 2 ^ (52 + number.scale) * denominator) :
    (numerator * FiniteBinary64.unit / denominator).log2 - 52 + 1 = number.scale := by
  have quarter := near.belowPower isLeast normal
  obtain ⟨less, scale⟩ := Nat.exists_eq_add_one.mpr (Nat.pos_of_ne_zero normal)
  have halfBelow : 2 ^ (52 + less) * denominator ≤ numerator * FiniteBinary64.unit := by
    have twice : 2 * (2 ^ (52 + less) * denominator) =
        2 ^ 52 * (Nat.pow 2 number.scale * denominator) := by
      rw [← pow_add_scale, scale, ← Nat.add_assoc, Nat.pow_succ]
      ring
    rw [isLeast, @Nat.pow_eq 2 52] at quarter
    omega
  rw [log2_div_eq positive halfBelow (by rwa [Nat.add_assoc, ← scale])]
  omega

/-- Every quotient in the rounding interval of a number other than zero is rounded to it. -/
theorem ofQuotient_eq
    (notZero : number.significand ≠ 0)
    (positive : 0 < denominator)
    (included : number.roundingInterval.Includes (4 * (numerator * FiniteBinary64.unit))
      denominator) :
    ofQuotient number.negative numerator denominator = .finite number := by
  have near := FiniteBinary64.near_of_includes notZero included
  by_cases least : number.scale = 0
  · exact ofQuotient_of_scale positive near (scale_of_subnormal positive near least)
  · by_cases below : numerator * FiniteBinary64.unit < 2 ^ (52 + number.scale) * denominator
    · have isLeast := significand_of_below near (number.canonical.resolve_left least) below
      refine ofQuotient_of_carry positive near isLeast ?_
        (scale_of_below positive near least isLeast below)
      rwa [isLeast, @Nat.pow_eq 2 52, ← pow_add_scale]
    · refine ofQuotient_of_scale positive near ?_
      rw [log2_div_eq positive (Nat.le_of_not_lt below) (below_of_near positive near)]
      omega

end Quotient

end Binary64

namespace FiniteBinary64

/-- The value of a decimal. -/
def Decimal.value (decimal : Decimal) : ℚ :=
  decimal.digits * 10 ^ decimal.exponent

/-- Whether an interval reaches over a value, counted in quarters of the least positive number. -/
def RoundingInterval.Covers
    (interval : RoundingInterval)
    (quarters : ℚ) : Prop :=
  if interval.closed then
    interval.lower ≤ quarters ∧ quarters ≤ interval.upper
  else
    interval.lower < quarters ∧ quarters < interval.upper

/-- An interval includes a fraction when it covers its quotient. -/
theorem RoundingInterval.includes_iff_covers
    {interval : RoundingInterval}
    {numerator denominator : Nat}
    (positive : 0 < denominator) :
    interval.Includes numerator denominator ↔ interval.Covers (numerator / denominator) := by
  have positiveCast : (0 : ℚ) < denominator := by exact_mod_cast positive
  rw [Includes, Covers]
  cases interval.closed with
  | true =>
      rw [if_pos rfl, if_pos rfl, le_div_iff₀ positiveCast, div_le_iff₀ positiveCast]
      norm_cast
  | false =>
      rw [if_neg Bool.false_ne_true, if_neg Bool.false_ne_true, lt_div_iff₀ positiveCast,
        div_lt_iff₀ positiveCast]
      norm_cast

/-- The quarters of a decimal are its value in quarter units. -/
theorem Decimal.quarters_eq (decimal : Decimal) :
    0 < decimal.quarters.2 ∧
      (decimal.quarters.1 : ℚ) / decimal.quarters.2 = decimal.value * quarterUnit := by
  have absolute : (decimal.exponent.natAbs : Int) = |decimal.exponent| :=
    Int.natCast_natAbs decimal.exponent
  rw [quarters, value]
  split
  case isTrue negative =>
    refine ⟨Nat.pow_pos (by decide), ?_⟩
    have shape : decimal.exponent = -(decimal.exponent.natAbs : Int) := by omega
    rw [shape, zpow_neg, zpow_natCast, Int.natAbs_neg, Int.natAbs_natCast, Nat.pow_eq]
    push_cast
    ring
  case isFalse nonnegative =>
    refine ⟨Nat.one_pos, ?_⟩
    have shape : decimal.exponent = (decimal.exponent.natAbs : Int) := by omega
    rw [shape, zpow_natCast, Int.natAbs_natCast, Nat.pow_eq]
    push_cast
    ring

/-- An interval contains a decimal when it covers its value. -/
theorem RoundingInterval.contains_iff_covers
    {interval : RoundingInterval}
    {decimal : Decimal} :
    interval.contains decimal = true ↔ interval.Covers (decimal.value * quarterUnit) := by
  rw [contains_iff, includes_iff_covers decimal.quarters_eq.1, decimal.quarters_eq.2]

variable {number : FiniteBinary64}

/-- Powers of two are less than powers of ten where the exponents are far enough apart. -/
theorem two_pow_lt_ten_pow
    {twos tens : Nat}
    (apart : 28 * twos < 93 * tens) :
    Nat.pow 2 twos < 10 ^ tens := by
  have step : 2 ^ 93 ≤ 10 ^ 28 := by decide
  apply lt_of_pow_lt_pow_left₀ 28 (Nat.zero_le _)
  calc
    (2 ^ twos) ^ 28 = 2 ^ (28 * twos) := by rw [← Nat.pow_mul, Nat.mul_comm]
    _ < 2 ^ (93 * tens) := Nat.pow_lt_pow_right Nat.one_lt_two apart
    _ = (2 ^ 93) ^ tens := Nat.pow_mul 2 93 tens
    _ ≤ (10 ^ 28) ^ tens := Nat.pow_le_pow_left step tens
    _ = (10 ^ tens) ^ 28 := by rw [← Nat.pow_mul, ← Nat.pow_mul, Nat.mul_comm]

theorem zero_lt_unit : 0 < unit := by
  unfold unit
  generalize 1074 = exponent
  exact Nat.two_pow_pos exponent

theorem unit_lt {tens : Nat} (enough : 324 ≤ tens) : unit < 10 ^ tens := by
  unfold unit
  generalize isExponent : 1074 = exponent
  exact two_pow_lt_ten_pow (by omega)

theorem quarterUnit_lt {tens : Nat} (enough : 325 ≤ tens) : quarterUnit < 10 ^ tens := by
  cases tens with
  | zero => omega
  | succ fewer =>
      have less := unit_lt (Nat.le_of_succ_le_succ enough)
      rw [quarterUnit, Nat.pow_succ]
      omega

/-- Any significand with bits to spare, at any scale, is less than ten to the 310th. -/
theorem scaled_lt {scale : Nat} (bounded : scale ≤ 2045) :
    2 ^ 55 * Nat.pow 2 scale < 10 ^ 310 * quarterUnit := by
  unfold quarterUnit unit
  generalize isLast : 1074 = last
  obtain ⟨more, isMore⟩ : ∃ more, more = 1024 := ⟨1024, rfl⟩
  have less : Nat.pow 2 more < 10 ^ 310 := two_pow_lt_ten_pow (by omega)
  have unitPositive : 0 < 4 * Nat.pow 2 last := Nat.mul_pos (by decide) (Nat.two_pow_pos last)
  calc
    2 ^ 55 * Nat.pow 2 scale = Nat.pow 2 (55 + scale) := (Nat.pow_add 2 55 scale).symm
    _ ≤ Nat.pow 2 (more + (2 + last)) := Nat.pow_le_pow_right Nat.two_pos (by omega)
    _ = Nat.pow 2 more * Nat.pow 2 (2 + last) := Nat.pow_add 2 more (2 + last)
    _ = Nat.pow 2 more * (4 * Nat.pow 2 last) := congrArg _ (Nat.pow_add 2 2 last)
    _ < 10 ^ 310 * (4 * Nat.pow 2 last) := Nat.mul_lt_mul_of_pos_right less unitPositive

/-- The least and the greatest quarters over which any rounding interval reaches. -/
theorem roundingInterval_bounds (notZero : number.significand ≠ 0) :
    1 ≤ number.roundingInterval.lower ∧
      number.roundingInterval.upper < 10 ^ 310 * quarterUnit := by
  have atLeast : Nat.pow 2 number.scale ≤ number.magnitude :=
    Nat.le_mul_of_pos_left _ (Nat.pos_of_ne_zero notZero)
  have atMost : number.magnitude ≤ (2 ^ 53 - 1) * Nat.pow 2 number.scale :=
    Nat.mul_le_mul_right _ (Nat.le_sub_one_of_lt number.significand_lt)
  have gapPositive : 0 < Nat.pow 2 number.scale := Nat.two_pow_pos number.scale
  rw [roundingInterval]
  constructor
  · dsimp only
    split <;> omega
  · have upper : 4 * number.magnitude + 2 * Nat.pow 2 number.scale ≤
        2 ^ 55 * Nat.pow 2 number.scale := by omega
    exact Nat.lt_of_le_of_lt upper (scaled_lt number.scale_le)

/-- What an interval covers lies between one quarter unit and the end of the range. -/
theorem covers_bounds
    {quarters : ℚ}
    (notZero : number.significand ≠ 0)
    (covered : number.roundingInterval.Covers quarters) :
    1 ≤ quarters ∧ quarters < 10 ^ 310 * quarterUnit := by
  obtain ⟨atLeast, atMost⟩ := roundingInterval_bounds notZero
  have lower : (1 : ℚ) ≤ number.roundingInterval.lower := by exact_mod_cast atLeast
  have upper : (number.roundingInterval.upper : ℚ) < 10 ^ 310 * quarterUnit := by
    exact_mod_cast atMost
  rw [RoundingInterval.Covers] at covered
  split at covered
  · exact ⟨lower.trans covered.1, covered.2.trans_lt upper⟩
  · exact ⟨lower.trans covered.1.le, covered.2.trans upper⟩

end FiniteBinary64

namespace Number

/-- A number lies below the power of ten that has one digit more. -/
theorem lt_pow_decimalLength (number : Nat) : number < 10 ^ decimalLength number :=
  (Nat.length_toDigits_le_iff (by decide) Nat.length_toDigits_pos).mp (Nat.le_refl _)

theorem pow_decimalLength_le
    {number : Nat}
    (notZero : number ≠ 0) :
    10 ^ (decimalLength number - 1) ≤ number := by
  by_cases short : decimalLength number - 1 = 0
  · rw [short]
    exact Nat.one_le_iff_ne_zero.mpr notZero
  · by_contra less
    have shorter : decimalLength number ≤ decimalLength number - 1 :=
      (Nat.length_toDigits_le_iff (by decide) (Nat.pos_of_ne_zero short)).mpr
        (Nat.lt_of_not_le less)
    omega

end Number

namespace FiniteBinary64

theorem Decimal.value_nonnegative (decimal : Decimal) : 0 ≤ decimal.value :=
  mul_nonneg (Nat.cast_nonneg _) (zpow_nonneg (by norm_num) _)

/-- A decimal lies between two powers of ten. -/
theorem Decimal.value_bounds
    {decimal : Decimal}
    (someDigits : decimal.digits ≠ 0) :
    10 ^ (Number.decimalLength decimal.digits + decimal.exponent - 1) ≤ decimal.value ∧
      decimal.value < 10 ^ (Number.decimalLength decimal.digits + decimal.exponent) := by
  have positive : (0 : ℚ) < 10 ^ decimal.exponent := zpow_pos (by norm_num) _
  have length : 1 ≤ Number.decimalLength decimal.digits := Nat.length_toDigits_pos
  have lower : (10 : ℚ) ^ (Number.decimalLength decimal.digits - 1) ≤ decimal.digits := by
    exact_mod_cast Number.pow_decimalLength_le someDigits
  have upper : (decimal.digits : ℚ) < 10 ^ Number.decimalLength decimal.digits := by
    exact_mod_cast Number.lt_pow_decimalLength decimal.digits
  rw [value]
  constructor
  · have shape : (Number.decimalLength decimal.digits + decimal.exponent - 1 : Int) =
        ((Number.decimalLength decimal.digits - 1 : Nat) : Int) + decimal.exponent := by omega
    rw [shape, zpow_add₀ (by norm_num), zpow_natCast]
    exact mul_le_mul_of_nonneg_right lower positive.le
  · rw [zpow_add₀ (by norm_num), zpow_natCast]
    exact mul_lt_mul_of_pos_right upper positive

/-- A decimal that rounds to a number other than zero is neither too small nor too large. -/
theorem Decimal.leading_bounds
    {number : FiniteBinary64}
    {decimal : Decimal}
    (notZero : number.significand ≠ 0)
    (covered : number.roundingInterval.Covers (decimal.value * quarterUnit)) :
    decimal.digits ≠ 0 ∧
      -330 ≤ (Number.decimalLength decimal.digits : Int) + decimal.exponent ∧
        (Number.decimalLength decimal.digits : Int) + decimal.exponent ≤ 310 := by
  obtain ⟨atLeast, atMost⟩ := covers_bounds notZero covered
  have unitPositive : (0 : ℚ) < quarterUnit := by
    exact_mod_cast Nat.mul_pos (by decide : 0 < 4) zero_lt_unit
  have unitLess : (quarterUnit : ℚ) < 10 ^ 331 := by
    exact_mod_cast (quarterUnit_lt (by decide) : quarterUnit < 10 ^ 331)
  generalize (quarterUnit : ℚ) = unit at atLeast atMost unitPositive unitLess
  have someDigits : decimal.digits ≠ 0 := by
    intro none
    rw [value, none] at atLeast
    norm_num at atLeast
  obtain ⟨lower, upper⟩ := decimal.value_bounds someDigits
  refine ⟨someDigits, ?_, ?_⟩
  · by_contra below
    have atMostLeast : decimal.value < 10 ^ (-331 : Int) :=
      upper.trans_le (zpow_le_zpow_right₀ (by norm_num) (by omega))
    have product : decimal.value * unit < 10 ^ (-331 : Int) * 10 ^ 331 :=
      mul_lt_mul'' atMostLeast unitLess (value_nonnegative decimal) unitPositive.le
    rw [← zpow_natCast, ← zpow_add₀ (by norm_num)] at product
    norm_num at product
    exact absurd atLeast (not_le.mpr product)
  · by_contra above
    have valueLess : decimal.value < 10 ^ 310 := lt_of_mul_lt_mul_right atMost unitPositive.le
    have atLeastGreatest : (10 : ℚ) ^ (310 : Int) ≤ decimal.value :=
      (zpow_le_zpow_right₀ (by norm_num) (by omega)).trans lower
    rw [zpow_ofNat] at atLeastGreatest
    exact absurd valueLess (not_lt.mpr atLeastGreatest)

end FiniteBinary64

namespace Binary64

/-- Every decimal in the rounding interval of a number other than zero is read as the number. -/
theorem ofDecimal_eq
    {number : FiniteBinary64}
    {decimal : FiniteBinary64.Decimal}
    (notZero : number.significand ≠ 0)
    (covered : number.roundingInterval.Covers (decimal.value * FiniteBinary64.quarterUnit)) :
    ofDecimal number.negative decimal.digits decimal.exponent = .finite number := by
  obtain ⟨someDigits, atLeast, atMost⟩ := decimal.leading_bounds notZero covered
  obtain ⟨positive, quarters⟩ := decimal.quarters_eq
  rw [← quarters, ← FiniteBinary64.RoundingInterval.includes_iff_covers positive,
    FiniteBinary64.Decimal.quarters] at covered
  simp only [ofDecimal, someDigits, not_lt.mpr atLeast, or_self, if_false, not_lt.mpr atMost]
  split
  case isTrue negative =>
    rw [if_pos negative] at covered
    refine ofQuotient_eq notZero (Nat.pow_pos (by decide)) ?_
    have shape : 4 * (decimal.digits * FiniteBinary64.unit) =
        decimal.digits * FiniteBinary64.quarterUnit := Nat.mul_left_comm _ _ _
    rwa [shape]
  case isFalse nonnegative =>
    rw [if_neg nonnegative] at covered
    refine ofQuotient_eq notZero Nat.one_pos ?_
    have shape :
        4 * (decimal.digits * Nat.pow 10 decimal.exponent.natAbs * FiniteBinary64.unit) =
          decimal.digits * Nat.pow 10 decimal.exponent.natAbs * FiniteBinary64.quarterUnit :=
      Nat.mul_left_comm _ _ _
    rwa [shape]

end Binary64

end ExpertAdvisor
