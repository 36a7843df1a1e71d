import ExpertAdvisor.Proofs.Number.ExactInteger

namespace ExpertAdvisor.Binary64

/-!
# The range of integers

An integer is rounded to a finite number exactly when it is smaller in size than
the place half a gap above the greatest finite number.  At that place itself the
tie goes to the even neighbour, which is no finite number any more.
-/

/-- Half the gap above the greatest finite number. -/
def halfGap : Nat := Nat.pow 2 970

/-- The least size of the integers that no finite number is near enough to. -/
def rangeEnd : Nat := Nat.pow 2 1024 - halfGap

theorem pow_two_eq
    {exponent rest : Nat}
    (parts : exponent = rest + 970) :
    Nat.pow 2 exponent = 2 ^ rest * halfGap := by
  unfold halfGap
  generalize 970 = last at parts ⊢
  subst parts
  exact Nat.pow_add 2 rest last

theorem halfGap_pos : 0 < halfGap := by
  unfold halfGap
  generalize 970 = exponent
  exact Nat.two_pow_pos exponent

/-- Counted in half gaps the range ends at an odd place. -/
theorem rangeEnd_eq : rangeEnd = (2 ^ 54 - 1) * halfGap := by
  unfold rangeEnd
  generalize isGreater : 1024 = exponent
  rw [pow_two_eq (show exponent = 54 + 970 by omega), Nat.sub_mul, Nat.one_mul]

section Division

variable {numerator denominator whole : Nat}

/-- A quotient rounds to less than an even whole number when it is more than half away from it. -/
theorem divideNearest_lt_iff
    (positive : 0 < denominator)
    (even : whole % 2 = 0) :
    divideNearest numerator denominator < whole ↔
      2 * numerator + denominator < 2 * (whole * denominator) := by
  have split := Nat.div_add_mod' numerator denominator
  have restSmall := Nat.mod_lt numerator positive
  rw [divideNearest]
  generalize numerator / denominator = quotient at split ⊢
  generalize numerator % denominator = rest at split restSmall ⊢
  rcases Nat.lt_trichotomy (quotient + 1) whole with below | rfl | above
  · have far := Nat.mul_le_mul_right denominator below
    rw [Nat.succ_mul, Nat.succ_mul] at far
    split_ifs <;> omega
  · rw [Nat.add_mul quotient 1]
    split_ifs <;> omega
  · have reached := Nat.mul_le_mul_right denominator (Nat.le_of_lt_succ above)
    split_ifs <;> omega

/-- A quotient that reaches a whole number is rounded to no less. -/
theorem le_divideNearest
    (positive : 0 < denominator)
    (reaches : whole * denominator ≤ numerator) :
    whole ≤ divideNearest numerator denominator := by
  have least : whole ≤ numerator / denominator := (Nat.le_div_iff_mul_le positive).mpr reaches
  rw [divideNearest]
  split_ifs <;> omega

end Division

/-- Fields make a finite number when they are in range. -/
theorem isFinite_ofFields
    {negative : Bool}
    {significand scale : Nat} :
    (ofFields negative significand scale).isFinite = true ↔
      significand < Nat.pow 2 53 ∧ (scale = 0 ∨ Nat.pow 2 52 ≤ significand) ∧ scale ≤ 2045 := by
  unfold ofFields
  split
  case isTrue fields => exact iff_of_true rfl fields
  case isFalse noFields => exact iff_of_false Bool.false_ne_true noFields

section Integer

variable {whole : Nat}

/-- Counted in the least positive number, an integer has that many more binary digits. -/
theorem log2_units (positive : 0 < whole) :
    (whole * FiniteBinary64.unit / 1).log2 = whole.log2 + 1074 := by
  have notZero := Nat.ne_of_gt positive
  unfold FiniteBinary64.unit
  rw [Nat.div_one]
  generalize 1074 = exponent
  have unitPositive : 0 < Nat.pow 2 exponent := Nat.two_pow_pos exponent
  refine (Nat.log2_eq_iff (Nat.ne_of_gt (Nat.mul_pos positive unitPositive))).mpr ⟨?_, ?_⟩
  · rw [Nat.pow_add]
    exact Nat.mul_le_mul_right _ (Nat.log2_self_le notZero)
  · rw [Nat.add_right_comm, Nat.pow_add]
    exact Nat.mul_lt_mul_of_pos_right Nat.lt_log2_self unitPositive

/-- At the scale of its logarithm an integer has all the digits that a number can have. -/
theorem normal_significand (positive : 0 < whole) :
    Nat.pow 2 52 ≤ divideNearest (whole * FiniteBinary64.unit)
      (1 * Nat.pow 2 (whole.log2 + 1022)) := by
  have shift : 52 + (whole.log2 + 1022) = whole.log2 + 1074 := by omega
  rw [Nat.one_mul]
  refine le_divideNearest (Nat.two_pow_pos _) ?_
  unfold FiniteBinary64.unit
  generalize 1022 = scale at shift ⊢
  generalize 1074 = exponent at shift ⊢
  have powers : Nat.pow 2 52 * Nat.pow 2 (whole.log2 + scale) =
      2 ^ whole.log2 * Nat.pow 2 exponent :=
    calc Nat.pow 2 52 * Nat.pow 2 (whole.log2 + scale)
      _ = 2 ^ (52 + (whole.log2 + scale)) := (Nat.pow_add 2 52 _).symm
      _ = 2 ^ (whole.log2 + exponent) := by rw [shift]
      _ = _ := Nat.pow_add 2 _ _
  rw [powers]
  exact Nat.mul_le_mul_right _ (Nat.log2_self_le (Nat.ne_of_gt positive))

/--
An integer is finite when its scale is below the greatest, or is the greatest
and leaves a significand that is not carried over.
-/
theorem isFinite_ofInt_of_scale
    {integer : Int}
    (positive : 0 < integer.natAbs) :
    (ofInt integer).isFinite = true ↔
      integer.natAbs.log2 < 1023 ∨
        integer.natAbs.log2 = 1023 ∧
          divideNearest (integer.natAbs * FiniteBinary64.unit)
            (1 * Nat.pow 2 (integer.natAbs.log2 + 1022)) < Nat.pow 2 53 := by
  have normal := normal_significand positive
  have scale : (integer.natAbs * FiniteBinary64.unit / 1).log2 - 52 =
      integer.natAbs.log2 + 1022 := by
    rw [log2_units positive]
    omega
  rw [ofInt, ofQuotient, scale]
  by_cases kept :
      divideNearest (integer.natAbs * FiniteBinary64.unit)
        (1 * Nat.pow 2 (integer.natAbs.log2 + 1022)) < Nat.pow 2 53
  · rw [if_pos kept, isFinite_ofFields]
    constructor
    · rintro ⟨_, _, inRange⟩
      rcases Nat.lt_or_eq_of_le (show integer.natAbs.log2 ≤ 1023 by omega) with below | equal
      · exact .inl below
      · exact .inr ⟨equal, kept⟩
    · rintro (below | ⟨equal, _⟩)
      · exact ⟨kept, .inr normal, by omega⟩
      · exact ⟨kept, .inr normal, by omega⟩
  · rw [if_neg kept, isFinite_ofFields]
    constructor
    · rintro ⟨_, _, inRange⟩
      exact .inl (by omega)
    · rintro (below | ⟨equal, keptThere⟩)
      · exact ⟨by decide, .inr (Nat.le_refl _), by omega⟩
      · exact absurd keptThere kept

/-- Integers of a smaller logarithm than the greatest number's lie before the end of the range. -/
theorem lt_rangeEnd (below : whole.log2 < 1023) : whole < rangeEnd := by
  have less : whole < 2 ^ 53 * halfGap := by
    generalize greatest : 1023 = exponent at below
    rw [← pow_two_eq (show exponent = 53 + 970 by omega)]
    exact Nat.lt_of_lt_of_le Nat.lt_log2_self (Nat.pow_le_pow_right Nat.two_pos below)
  have isEnd := rangeEnd_eq
  omega

/-- Integers of a greater logarithm lie behind the end of the range. -/
theorem rangeEnd_le
    (positive : 0 < whole)
    (above : 1023 < whole.log2) :
    rangeEnd ≤ whole := by
  have atLeast : 2 ^ 54 * halfGap ≤ whole := by
    generalize greatest : 1023 = exponent at above
    rw [← pow_two_eq (show exponent + 1 = 54 + 970 by omega)]
    exact Nat.le_trans (Nat.pow_le_pow_right Nat.two_pos above)
      (Nat.log2_self_le (Nat.ne_of_gt positive))
  have isEnd := rangeEnd_eq
  omega

/-- At the greatest scale the significand is carried over from the end of the range on. -/
theorem divideNearest_lt_iff_lt_rangeEnd (greatest : whole.log2 = 1023) :
    divideNearest (whole * FiniteBinary64.unit) (1 * Nat.pow 2 (whole.log2 + 1022)) <
        Nat.pow 2 53 ↔
      whole < rangeEnd := by
  have gap : 1 * Nat.pow 2 (whole.log2 + 1022) = 2 * FiniteBinary64.unit * halfGap := by
    unfold FiniteBinary64.unit
    generalize isUnit : 1074 = exponent
    rw [Nat.one_mul, pow_two_eq (show whole.log2 + 1022 = (exponent + 1) + 970 by omega),
      Nat.pow_succ, Nat.mul_comm _ 2]
    rfl
  have twicePositive : 0 < 2 * FiniteBinary64.unit :=
    Nat.mul_pos Nat.two_pos FiniteBinary64.zero_lt_unit
  have isEnd := rangeEnd_eq
  have halfGapPositive := halfGap_pos
  rw [gap, divideNearest_lt_iff (Nat.mul_pos twicePositive halfGapPositive) (by decide)]
  generalize FiniteBinary64.unit = unit at twicePositive ⊢
  have counted :
      2 * (whole * unit) + 2 * unit * halfGap < 2 * (2 ^ 53 * (2 * unit * halfGap)) ↔
        2 * unit * (whole + halfGap) < 2 * unit * (2 ^ 54 * halfGap) := by
    ring_nf
  refine counted.trans ((Nat.mul_lt_mul_left twicePositive).trans ?_)
  omega

/-- An integer is rounded to a finite number exactly when it lies before the end of the range. -/
theorem isFinite_ofInt_iff (integer : Int) :
    (ofInt integer).isFinite = true ↔ integer.natAbs < rangeEnd := by
  rcases Nat.eq_zero_or_pos integer.natAbs with isZero | positive
  · obtain rfl := Int.natAbs_eq_zero.mp isZero
    exact iff_of_true (by decide +kernel) (by decide +kernel)
  · rw [isFinite_ofInt_of_scale positive]
    rcases Nat.lt_trichotomy integer.natAbs.log2 1023 with below | equal | above
    · exact iff_of_true (.inl below) (lt_rangeEnd below)
    · rw [divideNearest_lt_iff_lt_rangeEnd equal]
      omega
    · exact iff_of_false (by omega) (Nat.not_lt.mpr (rangeEnd_le positive above))

end Integer

end ExpertAdvisor.Binary64
