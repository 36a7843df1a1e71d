import ExpertAdvisor.Proofs.Number.Rounding

namespace ExpertAdvisor

/-!
# Exact integers

A number is rounded to itself, and every integer of at most `2 ^ 53` in size is a
number.  So these integers come back from their numbers unchanged, and so do all
integers that numbers have without their fractions.
-/

namespace FiniteBinary64

/-- The interval in which a number is nearest includes the number. -/
theorem includes_magnitude
    {number : FiniteBinary64}
    (notZero : number.significand ≠ 0) :
    number.roundingInterval.Includes (4 * number.magnitude) 1 := by
  have gapPositive : 0 < Nat.pow 2 number.scale := Nat.two_pow_pos number.scale
  have atLeastGap : Nat.pow 2 number.scale ≤ number.magnitude :=
    Nat.le_mul_of_pos_left _ (Nat.pos_of_ne_zero notZero)
  rw [RoundingInterval.Includes, roundingInterval]
  dsimp only
  split_ifs <;> omega

section Shifted

variable {whole shift : Nat}

/-- A whole number that a significand holds is shifted up to a full one. -/
theorem exists_shifted_of_lt
    (negative : Bool)
    (positive : 0 < whole)
    (bounded : whole < 2 ^ 53)
    (inRange : shift ≤ 970) :
    ∃ number : FiniteBinary64, number.negative = negative ∧ number.significand ≠ 0 ∧
      number.magnitude = whole * 2 ^ shift * unit := by
  have logarithm : whole.log2 < 53 := (Nat.log2_lt (Nat.ne_of_gt positive)).mpr bounded
  obtain ⟨rest, filled⟩ : ∃ rest, whole.log2 + rest = 52 := Nat.le.dest (by omega)
  have atLeast : 2 ^ 52 ≤ whole * 2 ^ rest := by
    rw [← filled, Nat.pow_add]
    exact Nat.mul_le_mul_right _ (Nat.log2_self_le (Nat.ne_of_gt positive))
  have atMost : whole * 2 ^ rest < 2 ^ 53 := by
    have next : 2 ^ 53 = 2 ^ (whole.log2 + 1) * 2 ^ rest := by
      rw [← Nat.pow_add]
      congr 1
      omega
    rw [next]
    exact Nat.mul_lt_mul_of_pos_right Nat.lt_log2_self (Nat.two_pow_pos rest)
  refine ⟨⟨negative, whole * 2 ^ rest, 1022 + whole.log2 + shift, atMost, .inr atLeast,
    by omega⟩, rfl, Nat.ne_of_gt (Nat.mul_pos positive (Nat.two_pow_pos rest)), ?_⟩
  have exponent : rest + (1022 + whole.log2 + shift) = shift + 1074 := by omega
  have units : Nat.pow 2 rest * Nat.pow 2 (1022 + whole.log2 + shift) = 2 ^ shift * unit := by
    unfold unit
    generalize 1074 = unitExponent at exponent ⊢
    calc Nat.pow 2 rest * Nat.pow 2 (1022 + whole.log2 + shift)
      _ = 2 ^ (rest + (1022 + whole.log2 + shift)) := (Nat.pow_add 2 _ _).symm
      _ = 2 ^ (shift + unitExponent) := by rw [exponent]
      _ = _ := Nat.pow_add 2 _ _
  calc whole * 2 ^ rest * Nat.pow 2 (1022 + whole.log2 + shift)
    _ = whole * (Nat.pow 2 rest * Nat.pow 2 (1022 + whole.log2 + shift)) :=
      Nat.mul_assoc _ _ _
    _ = whole * (2 ^ shift * unit) := by rw [units]
    _ = _ := (Nat.mul_assoc _ _ _).symm

/-- The power of two that no significand holds is the least full one at the next scale. -/
theorem exists_shifted_power
    (negative : Bool)
    (inRange : shift ≤ 970) :
    ∃ number : FiniteBinary64, number.negative = negative ∧ number.significand ≠ 0 ∧
      number.magnitude = 2 ^ 53 * 2 ^ shift * unit := by
  have units : Nat.pow 2 52 * Nat.pow 2 (1075 + shift) = 2 ^ 53 * 2 ^ shift * unit := by
    have exponent : 52 + (1075 + shift) = 53 + shift + 1074 := by omega
    unfold unit
    generalize 1074 = unitExponent at exponent ⊢
    generalize 1075 = scale at exponent ⊢
    calc Nat.pow 2 52 * Nat.pow 2 (scale + shift)
      _ = 2 ^ (52 + (scale + shift)) := (Nat.pow_add 2 _ _).symm
      _ = 2 ^ (53 + shift + unitExponent) := by rw [exponent]
      _ = 2 ^ 53 * 2 ^ shift * 2 ^ unitExponent := by rw [Nat.pow_add, Nat.pow_add 2 53]
  exact ⟨⟨negative, Nat.pow 2 52, 1075 + shift, by decide, .inr (Nat.le_refl _), by omega⟩, rfl,
    Nat.ne_of_gt (Nat.two_pow_pos 52), units⟩

/-- A whole number of at most `2 ^ 53`, shifted, is the size of a number with either sign. -/
theorem exists_shifted
    (negative : Bool)
    (positive : 0 < whole)
    (bounded : whole ≤ 2 ^ 53)
    (inRange : shift ≤ 970) :
    ∃ number : FiniteBinary64, number.negative = negative ∧ number.significand ≠ 0 ∧
      number.magnitude = whole * 2 ^ shift * unit := by
  rcases Nat.lt_or_eq_of_le bounded with less | rfl
  · exact exists_shifted_of_lt negative positive less inRange
  · exact exists_shifted_power negative inRange

end Shifted

/-- The integer part of a number is its magnitude in whole units. -/
theorem natAbs_truncated (number : FiniteBinary64) :
    number.truncated.natAbs = number.magnitude / unit := by
  rw [truncated]
  generalize number.magnitude / unit = whole
  cases number.negative with
  | false => exact Int.natAbs_natCast whole
  | true => exact (Int.natAbs_neg _).trans (Int.natAbs_natCast whole)

/-- A number of more than `2 ^ 53` in size is a multiple of one. -/
theorem unit_le_scale_of_large
    {number : FiniteBinary64}
    (large : 2 ^ 53 < number.truncated.natAbs) :
    1074 ≤ number.scale := by
  rw [natAbs_truncated] at large
  have unitPositive := zero_lt_unit
  unfold unit at large unitPositive
  generalize 1074 = exponent at large unitPositive ⊢
  by_contra narrow
  have gap : Nat.pow 2 number.scale ≤ Nat.pow 2 exponent :=
    Nat.pow_le_pow_right (by decide) (Nat.le_of_not_le narrow)
  have less : number.magnitude < 2 ^ 53 * Nat.pow 2 exponent :=
    Nat.lt_of_le_of_lt (Nat.mul_le_mul_left _ gap)
      (Nat.mul_lt_mul_of_pos_right number.significand_lt unitPositive)
  exact Nat.lt_asymm large ((Nat.div_lt_iff_lt_mul unitPositive).mpr less)

theorem magnitude_of_scale
    {number : FiniteBinary64}
    (wide : 1074 ≤ number.scale) :
    number.magnitude = number.significand * 2 ^ (number.scale - 1074) * unit := by
  rw [magnitude, Nat.mul_assoc]
  unfold unit
  generalize 1074 = exponent at wide ⊢
  have whole : number.scale = number.scale - exponent + exponent := (Nat.sub_add_cancel wide).symm
  calc number.significand * Nat.pow 2 number.scale
    _ = number.significand * 2 ^ (number.scale - exponent + exponent) := by rw [← whole]; rfl
    _ = _ := congrArg (number.significand * ·) (Nat.pow_add 2 _ _)

/-- A number of more than `2 ^ 53` in size has no fraction: it is its significand, shifted. -/
theorem natAbs_of_large
    {number : FiniteBinary64}
    (large : 2 ^ 53 < number.truncated.natAbs) :
    number.truncated.natAbs = number.significand * 2 ^ (number.scale - 1074) := by
  rw [natAbs_truncated, magnitude_of_scale (unit_le_scale_of_large large),
    Nat.mul_div_cancel _ zero_lt_unit]

/-- A large number has no fraction. -/
theorem magnitude_of_large
    {number : FiniteBinary64}
    (large : 2 ^ 53 < number.truncated.natAbs) :
    number.magnitude = number.truncated.natAbs * unit := by
  rw [natAbs_of_large large, magnitude_of_scale (unit_le_scale_of_large large)]

/-- A number whose integer is not zero has the integer's sign. -/
theorem negative_of_truncated
    {number : FiniteBinary64}
    (notZero : number.truncated ≠ 0) :
    number.negative = decide (number.truncated < 0) := by
  rw [truncated] at notZero ⊢
  generalize number.magnitude / unit = whole at notZero ⊢
  cases sign : number.negative with
  | false => simp
  | true =>
      rw [sign] at notZero
      simp only [if_true] at notZero ⊢
      simp only [true_eq_decide_iff]
      omega

end FiniteBinary64

namespace Binary64

/-- An integer comes back from its number, which has the same sign. -/
def IsExact (integer : Int) : Prop :=
  ∃ number : FiniteBinary64, ofInt integer = .finite number ∧ number.truncated = integer ∧
    number.isNonnegative = decide (0 ≤ integer)

/-- An integer is exact when a number of its sign is as large. -/
theorem isExact_of_magnitude
    {integer : Int}
    {number : FiniteBinary64}
    (sign : number.negative = decide (integer < 0))
    (notZero : number.significand ≠ 0)
    (size : number.magnitude = integer.natAbs * FiniteBinary64.unit) :
    IsExact integer := by
  have included := number.includes_magnitude notZero
  rw [size] at included
  refine ⟨number, ?_, ?_, ?_⟩
  · rw [ofInt, ← sign]
    exact ofQuotient_eq notZero Nat.one_pos included
  · have whole : integer.natAbs * FiniteBinary64.unit / FiniteBinary64.unit = integer.natAbs :=
      Nat.mul_div_cancel _ FiniteBinary64.zero_lt_unit
    rw [FiniteBinary64.truncated, size, whole, sign]
    simp only [decide_eq_true_eq]
    split <;> omega
  · have someSignificand : (number.significand == 0) = false := beq_false_of_ne notZero
    rw [FiniteBinary64.isNonnegative, sign, someSignificand, Bool.or_false, ← decide_not]
    exact decide_eq_decide.mpr Int.not_lt

/-- An integer is exact when it is a whole number of at most `2 ^ 53`, shifted within the range. -/
theorem isExact_of_shifted
    {integer : Int}
    {whole shift : Nat}
    (size : integer.natAbs = whole * 2 ^ shift)
    (bounded : whole ≤ 2 ^ 53)
    (inRange : shift ≤ 970) :
    IsExact integer := by
  by_cases isZero : integer = 0
  · subst isZero
    exact ⟨FiniteBinary64.zero false, by decide +kernel, by decide +kernel, by decide⟩
  · have positive : 0 < whole := by
      refine Nat.pos_of_ne_zero fun wholeZero => isZero (Int.natAbs_eq_zero.mp ?_)
      rw [size, wholeZero, Nat.zero_mul]
    obtain ⟨number, sign, notZero, magnitude⟩ :=
      FiniteBinary64.exists_shifted (decide (integer < 0)) positive bounded inRange
    rw [← size] at magnitude
    exact isExact_of_magnitude sign notZero magnitude

/-- An exact integer is a whole number of at most `2 ^ 53`, shifted. -/
theorem exists_shifted_of_isExact
    {integer : Int}
    (exact : IsExact integer) :
    ∃ whole shift, integer.natAbs = whole * 2 ^ shift ∧ whole ≤ 2 ^ 53 := by
  obtain ⟨number, _, rfl, _⟩ := exact
  by_cases bounded : number.truncated.natAbs ≤ 2 ^ 53
  · exact ⟨_, 0, (Nat.mul_one _).symm, bounded⟩
  · exact ⟨number.significand, _, FiniteBinary64.natAbs_of_large (Nat.lt_of_not_le bounded),
      Nat.le_of_lt number.significand_lt⟩

/-- Every integer of at most two to the power of 53 is exact. -/
theorem isExact_of_bounded
    {integer : Int}
    (bounded : integer.natAbs ≤ 2 ^ 53) :
    IsExact integer :=
  isExact_of_shifted (Nat.mul_one _).symm bounded (Nat.zero_le _)

/-- An integer that a number has without its fraction is exact, however large it is. -/
theorem isExact_truncated (number : FiniteBinary64) : IsExact number.truncated := by
  by_cases bounded : number.truncated.natAbs ≤ 2 ^ 53
  · exact isExact_of_bounded bounded
  · -- Beyond that bound the number has no fraction, so it is the one that the integer rounds to.
    have large := Nat.lt_of_not_le bounded
    have size := FiniteBinary64.magnitude_of_large large
    have integerNotZero : number.truncated ≠ 0 := by
      intro isZero
      rw [isZero] at large
      exact absurd large (by decide)
    have notZero : number.significand ≠ 0 := by
      intro isZero
      rw [FiniteBinary64.magnitude, isZero, Nat.zero_mul, eq_comm, Nat.mul_eq_zero] at size
      exact size.elim (Int.natAbs_ne_zero.mpr integerNotZero)
        (Nat.ne_of_gt FiniteBinary64.zero_lt_unit)
    exact isExact_of_magnitude (FiniteBinary64.negative_of_truncated integerNotZero) notZero size

end Binary64

end ExpertAdvisor
