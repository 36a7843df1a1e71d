import ExpertAdvisor.Proofs.Number.IntegerRange

namespace ExpertAdvisor

/-!
# Rounded integers

Every integer of 64 binary digits is rounded to a finite number of its own sign.
It comes back from that number exactly when 53 binary digits hold it, followed by
zeros only.
-/

/-- An integer of 64 binary digits, one of them for the sign. -/
def Number.IsLong (integer : Int) : Prop :=
  -2 ^ 63 ≤ integer ∧ integer < 2 ^ 63

/-- An integer of 64 bits is at most two to the power of 63. -/
theorem Number.natAbs_le_of_isLong
    {integer : Int}
    (isLong : IsLong integer) :
    integer.natAbs ≤ 2 ^ 63 := by
  obtain ⟨least, greatest⟩ := isLong
  omega

/-- An integer of 64 bits has at most nineteen digits. -/
theorem Number.decimalLength_le_of_isLong
    {integer : Int}
    (isLong : IsLong integer) :
    decimalLength integer.natAbs ≤ 19 :=
  (Nat.length_toDigits_le_iff (by decide) (by decide)).mpr
    (Nat.lt_of_le_of_lt (natAbs_le_of_isLong isLong) (by decide))

namespace Binary64

/-- An integer is a whole number of at most `2 ^ 53`, shifted. -/
def Holds (integer : Int) : Prop :=
  ∃ whole shift, integer.natAbs = whole * 2 ^ shift ∧ whole ≤ 2 ^ 53

variable {integer : Int}

/-- In 64 bits, an integer is exact when binary64 holds it. -/
theorem isExact_iff_holds (isLong : Number.IsLong integer) : IsExact integer ↔ Holds integer := by
  refine ⟨exists_shifted_of_isExact, ?_⟩
  rintro ⟨whole, shift, size, bounded⟩
  have small := Number.natAbs_le_of_isLong isLong
  rcases Nat.eq_zero_or_pos whole with rfl | positive
  · refine isExact_of_bounded ?_
    rw [size, Nat.zero_mul]
    exact Nat.zero_le _
  · have shiftSmall : 2 ^ shift ≤ 2 ^ 63 :=
      calc 2 ^ shift
        _ ≤ whole * 2 ^ shift := Nat.le_mul_of_pos_left _ positive
        _ ≤ 2 ^ 63 := size ▸ small
    have inRange : shift ≤ 63 := (Nat.pow_le_pow_iff_right (by decide)).mp shiftSmall
    exact isExact_of_shifted size bounded (by omega)

/-- Rounding keeps the sign. -/
theorem negative_of_ofQuotient
    {negative : Bool}
    {numerator denominator : Nat}
    {number : FiniteBinary64}
    (rounded : ofQuotient negative numerator denominator = .finite number) :
    number.negative = negative := by
  have sign
      {significand scale : Nat}
      (packed : ofFields negative significand scale = .finite number) :
      number.negative = negative := by
    unfold ofFields at packed
    split at packed
    · rw [← Binary64.finite.inj packed]
    · cases packed
  unfold ofQuotient at rounded
  dsimp only at rounded
  split at rounded
  · exact sign rounded
  · exact sign rounded

/-- A long integer is rounded to a finite number, which is the integer where that is held. -/
theorem exists_rounded (isLong : Number.IsLong integer) :
    ∃ number, ofInt integer = .finite number ∧
      (number.truncated = integer ↔ Holds integer) ∧
      number.negative = decide (integer < 0) := by
  have inside : (ofInt integer).isFinite = true := by
    rw [isFinite_ofInt_iff]
    exact Nat.lt_of_le_of_lt (Number.natAbs_le_of_isLong isLong) (by decide +kernel)
  obtain ⟨number, isNumber⟩ := Option.isSome_iff_exists.mp inside
  have rounded : ofInt integer = .finite number := by
    generalize ofInt integer = nearest at isNumber
    cases nearest with
    | finite own => rw [Option.some.inj isNumber]
    | nan | infinite _ => cases isNumber
  refine ⟨number, rounded, ⟨fun kept => ?_, fun held => ?_⟩, negative_of_ofQuotient rounded⟩
  · rw [← isExact_iff_holds isLong, ← kept]
    exact isExact_truncated number
  · obtain ⟨own, isOwn, truncated, _⟩ := (isExact_iff_holds isLong).mpr held
    rwa [Binary64.finite.inj (rounded.symm.trans isOwn)]

end Binary64

end ExpertAdvisor
