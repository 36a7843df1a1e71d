import ExpertAdvisor.Proofs.Number.Rounding

namespace ExpertAdvisor.FiniteBinary64

/-!
# The shortest decimal rounds to its number

On a decimal grid that is finer than the gap to the number's neighbours, the
nearer of the two multiples around the number lies inside the rounding interval.
The grid of seventeen digits is that fine, so the search for the shortest
decimal ends with one that rounds to the number.
-/

variable {number : FiniteBinary64} {exponent : Int}

theorem unit_positive : (0 : ℚ) < unit := by
  exact_mod_cast zero_lt_unit

theorem quarterUnit_eq : (quarterUnit : ℚ) = 4 * unit := by
  rw [quarterUnit, Nat.cast_mul, Nat.cast_ofNat]

theorem ten_zpow_positive (exponent : Int) : (0 : ℚ) < 10 ^ exponent :=
  zpow_pos (by norm_num) exponent

/-- The digits of the greatest multiple of a power of ten are a quotient's whole part. -/
theorem floorDigits_eq
    (number : FiniteBinary64)
    (exponent : Int) :
    number.floorDigits exponent = ⌊(number.magnitude : ℚ) / (10 ^ exponent * unit)⌋₊ := by
  have positive := unit_positive
  rw [floorDigits]
  split
  case isTrue negative =>
    have shape : exponent = -(exponent.natAbs : Int) := by omega
    have floor : ⌊((number.magnitude * Nat.pow 10 exponent.natAbs : Nat) : ℚ) / unit⌋₊ =
        number.magnitude * Nat.pow 10 exponent.natAbs / unit := Nat.floor_div_eq_div _ _
    have power : (10 : ℚ) ^ exponent.natAbs ≠ 0 := pow_ne_zero _ (by norm_num)
    rw [← floor, shape, zpow_neg, zpow_natCast, Int.natAbs_neg, Int.natAbs_natCast, Nat.pow_eq,
      Nat.cast_mul, Nat.cast_pow, Nat.cast_ofNat, div_mul_eq_div_div, div_inv_eq_mul]
  case isFalse nonnegative =>
    have shape : exponent = (exponent.natAbs : Int) := by omega
    have floor : ⌊(number.magnitude : ℚ) / (unit * Nat.pow 10 exponent.natAbs : Nat)⌋₊ =
        number.magnitude / (unit * Nat.pow 10 exponent.natAbs) := Nat.floor_div_eq_div _ _
    rw [← floor, shape, zpow_natCast, Int.natAbs_natCast, Nat.pow_eq, Nat.cast_mul, Nat.cast_pow,
      Nat.cast_ofNat, mul_comm (unit : ℚ)]

/-- The multiples of a power of ten around a number. -/
theorem floorDigits_bounds
    (number : FiniteBinary64)
    (exponent : Int) :
    number.floorDigits exponent * (10 ^ exponent * unit) ≤ (number.magnitude : ℚ) ∧
      (number.magnitude : ℚ) < (number.floorDigits exponent + 1) * (10 ^ exponent * unit) := by
  have step : (0 : ℚ) < 10 ^ exponent * unit := mul_pos (ten_zpow_positive exponent) unit_positive
  have quotient : (0 : ℚ) ≤ number.magnitude / (10 ^ exponent * unit) :=
    div_nonneg (Nat.cast_nonneg _) step.le
  rw [floorDigits_eq]
  exact ⟨(le_div_iff₀ step).mp (Nat.floor_le quotient),
    (div_lt_iff₀ step).mp (Nat.lt_floor_add_one _)⟩

/-- What lies strictly inside a rounding interval is covered, whether it is closed or not. -/
theorem covers_of_inside
    {quarters : ℚ}
    (notZero : number.significand ≠ 0)
    (fromAbove : quarters < 4 * number.magnitude + 2 * 2 ^ number.scale)
    (fromBelow : 4 * number.magnitude - 2 * 2 ^ number.scale < quarters)
    (belowPower : number.significand = 2 ^ 52 →
      4 * number.magnitude - 2 ^ number.scale < quarters) :
    number.roundingInterval.Covers quarters := by
  have atLeast : Nat.pow 2 number.scale ≤ number.magnitude :=
    Nat.le_mul_of_pos_left _ (Nat.pos_of_ne_zero notZero)
  have gap : ((Nat.pow 2 number.scale : Nat) : ℚ) = 2 ^ number.scale := by
    rw [Nat.pow_eq, Nat.cast_pow, Nat.cast_ofNat]
  have upper : quarters < number.roundingInterval.upper := by
    rw [roundingInterval, Nat.cast_add, Nat.cast_mul, Nat.cast_mul, gap]
    exact fromAbove
  have lower : number.roundingInterval.lower < quarters := by
    rw [roundingInterval]
    dsimp only
    split
    case isTrue power =>
      rw [Nat.cast_sub (by omega), Nat.cast_mul, gap]
      exact belowPower power.1
    case isFalse =>
      rw [Nat.cast_sub (by omega), Nat.cast_mul, Nat.cast_mul, gap]
      exact fromBelow
  rw [RoundingInterval.Covers]
  split
  · exact ⟨lower.le, upper.le⟩
  · exact ⟨lower, upper⟩

/-- On a grid finer than the number's gap, a multiple next to the number rounds to it. -/
theorem neighbour?_isSome
    (notZero : number.significand ≠ 0)
    (finer : 10 ^ exponent * unit < (2 : ℚ) ^ number.scale)
    (finerBelow : number.significand = 2 ^ 52 →
      2 * (10 ^ exponent * unit) < (2 : ℚ) ^ number.scale) :
    (number.neighbour? exponent).isSome = true := by
  obtain ⟨lowerBound, upperBound⟩ := number.floorDigits_bounds exponent
  let step : ℚ := 10 ^ exponent * unit
  have stepPositive : 0 < step := mul_pos (ten_zpow_positive exponent) unit_positive
  have quarters (digits : Nat) :
      Decimal.value ⟨digits, exponent⟩ * quarterUnit = 4 * (digits * step) := by
    rw [Decimal.value, quarterUnit_eq]
    ring
  -- The nearer multiple is at most half a step away.
  by_cases nearer : 2 * (number.magnitude - number.floorDigits exponent * step) ≤ step
  · have covered : number.roundingInterval.contains ⟨number.floorDigits exponent, exponent⟩ =
        true := by
      rw [RoundingInterval.contains_iff_covers, quarters]
      refine covers_of_inside notZero ?_ ?_ fun power => ?_
      · linarith [pow_pos (two_pos : (0 : ℚ) < 2) number.scale]
      · linarith
      · linarith [finerBelow power]
    simp only [neighbour?, covered]
    cases number.roundingInterval.contains ⟨number.floorDigits exponent + 1, exponent⟩ <;> rfl
  · have covered : number.roundingInterval.contains ⟨number.floorDigits exponent + 1, exponent⟩ =
        true := by
      rw [RoundingInterval.contains_iff_covers, quarters]
      push_cast
      refine covers_of_inside notZero ?_ ?_ fun power => ?_
      · linarith
      · linarith [pow_pos (two_pos : (0 : ℚ) < 2) number.scale]
      · linarith [pow_pos (two_pos : (0 : ℚ) < 2) number.scale]
    simp only [neighbour?, covered]
    cases number.roundingInterval.contains ⟨number.floorDigits exponent, exponent⟩ <;> rfl

/-- The search keeps to decimals that round to the number. -/
theorem contains_of_neighbour?
    {decimal : Decimal}
    (found : number.neighbour? exponent = some decimal) :
    number.roundingInterval.contains decimal = true := by
  simp only [neighbour?] at found
  split at found
  case h_1 lower upper =>
    obtain rfl := Option.some.inj found
    split
    · exact upper
    · exact lower
  case h_2 lower _ =>
    obtain rfl := Option.some.inj found
    exact lower
  case h_3 _ upper =>
    obtain rfl := Option.some.inj found
    exact upper
  case h_4 => exact absurd found nofun

/-- A search that reaches a neighbour ends in the interval. -/
theorem contains_shortestFrom
    {position : Int}
    {count fuel : Nat}
    (reached : ∃ later, later < fuel ∧
      (number.neighbour? (position - (count + later : Nat))).isSome = true) :
    number.roundingInterval.contains (number.shortestFrom position count fuel) = true := by
  induction fuel generalizing count with
  | zero =>
      obtain ⟨later, impossible, _⟩ := reached
      exact absurd impossible (Nat.not_lt_zero later)
  | succ more inductionHypothesis =>
      rw [shortestFrom]
      split
      case h_1 decimal found => exact contains_of_neighbour? found
      case h_2 missing =>
        refine inductionHypothesis ?_
        obtain ⟨later, inTime, found⟩ := reached
        cases later with
        | zero => simp [missing] at found
        | succ less =>
            refine ⟨less, Nat.lt_of_succ_lt_succ inTime, ?_⟩
            rwa [Nat.add_right_comm]

/-- The fuel for counting places suffices where that many places reach one. -/
theorem unit_le_leadingPlaces
    {magnitude fuel : Nat}
    (reached : unit ≤ magnitude * 10 ^ fuel) :
    unit ≤ magnitude * 10 ^ leadingPlaces magnitude fuel := by
  induction fuel generalizing magnitude with
  | zero => exact reached
  | succ places inductionHypothesis =>
      rw [leadingPlaces]
      split
      case isTrue atLeastOne => rwa [Nat.pow_zero, Nat.mul_one]
      case isFalse =>
        rw [Nat.pow_succ', ← Nat.mul_assoc] at reached ⊢
        exact inductionHypothesis reached

/-- The position leaves the number at least a tenth of its power of ten. -/
theorem pow_decimalPosition_le (notZero : number.significand ≠ 0) :
    10 ^ (number.decimalPosition - 1) * unit ≤ (number.magnitude : ℚ) := by
  have somePositive : 0 < number.magnitude :=
    Nat.mul_pos (Nat.pos_of_ne_zero notZero) (Nat.two_pow_pos number.scale)
  rw [decimalPosition]
  split
  case isTrue atLeastOne =>
    have someWhole : number.magnitude / unit ≠ 0 :=
      Nat.ne_of_gt (Nat.div_pos atLeastOne zero_lt_unit)
    have digits := Number.pow_decimalLength_le someWhole
    have product : 10 ^ (Number.decimalLength (number.magnitude / unit) - 1) * unit ≤
        number.magnitude :=
      (Nat.mul_le_mul_right unit digits).trans (Nat.div_mul_le_self _ _)
    have length : 1 ≤ Number.decimalLength (number.magnitude / unit) := Nat.length_toDigits_pos
    have shape : (Number.decimalLength (number.magnitude / unit) : Int) - 1 =
        (Number.decimalLength (number.magnitude / unit) - 1 : Nat) := by omega
    rw [shape, zpow_natCast]
    exact_mod_cast product
  case isFalse =>
    have enough : unit ≤ 10 ^ 400 := (unit_lt (by decide)).le
    have reached := unit_le_leadingPlaces (enough.trans (Nat.le_mul_of_pos_left _ somePositive))
    generalize leadingPlaces number.magnitude 400 = places at reached ⊢
    have shape : (1 : Int) - (places : Nat) - 1 = -(places : Int) := by omega
    rw [shape, zpow_neg, zpow_natCast, inv_mul_le_iff₀ (pow_pos (by norm_num) _), mul_comm]
    exact_mod_cast reached

/-- A decimal has the same value without its trailing zeros. -/
theorem Decimal.value_withoutTrailingZeros
    (fuel : Nat)
    (decimal : Decimal) :
    (decimal.withoutTrailingZeros fuel).value = decimal.value := by
  induction fuel generalizing decimal with
  | zero => rfl
  | succ more inductionHypothesis =>
      rw [withoutTrailingZeros]
      split
      case isTrue trailing =>
        have digits : decimal.digits = decimal.digits / 10 * 10 := by omega
        have cast : (decimal.digits : ℚ) = (decimal.digits / 10 : Nat) * 10 := by
          exact_mod_cast digits
        rw [inductionHypothesis, value, value, zpow_add₀ (by norm_num), cast]
        ring
      case isFalse => rfl

/-- The shortest decimal of a number other than zero rounds to the number. -/
theorem covers_shortest (notZero : number.significand ≠ 0) :
    number.roundingInterval.Covers (number.shortest.value * quarterUnit) := by
  have positioned := pow_decimalPosition_le notZero
  have gapPositive : (0 : ℚ) < 2 ^ number.scale := pow_pos two_pos _
  -- Seventeen digits leave a step of at most a part in ten to the sixteenth.
  have step : 10 ^ (number.decimalPosition - 17) * unit * 10 ^ 16 ≤
      (number.significand : ℚ) * 2 ^ number.scale := by
    have magnitude : (number.magnitude : ℚ) = number.significand * 2 ^ number.scale := by
      rw [FiniteBinary64.magnitude, Nat.pow_eq, Nat.cast_mul, Nat.cast_pow, Nat.cast_ofNat]
    have shape : number.decimalPosition - 17 + (16 : Nat) = number.decimalPosition - 1 := by omega
    have power : (10 : ℚ) ^ (number.decimalPosition - 17) * 10 ^ 16 =
        10 ^ (number.decimalPosition - 1) := by
      rw [← zpow_natCast, ← zpow_add₀ (by norm_num), shape]
    calc
      10 ^ (number.decimalPosition - 17) * unit * 10 ^ 16 =
          (10 : ℚ) ^ (number.decimalPosition - 1) * unit := by rw [mul_right_comm, power]
      _ ≤ number.magnitude := positioned
      _ = number.significand * 2 ^ number.scale := magnitude
  have reached : (number.neighbour? (number.decimalPosition - 17)).isSome = true := by
    have less : (number.significand : ℚ) ≤ 2 ^ 53 := by
      exact_mod_cast number.significand_lt.le
    refine neighbour?_isSome notZero ?_ fun power => ?_
    · have scaled := mul_le_mul_of_nonneg_right less gapPositive.le
      linarith
    · rw [power] at step
      push_cast at step
      linarith
  rw [shortest, Decimal.value_withoutTrailingZeros, ← RoundingInterval.contains_iff_covers]
  exact contains_shortestFrom ⟨16, by decide, reached⟩

end ExpertAdvisor.FiniteBinary64
