import ExpertAdvisor.Proofs.Number.DecimalReading

namespace ExpertAdvisor

open Text

namespace Number

/-!
# Reading integers back

The text of an integer is read as the integer, or as the number nearest to it
where a number is asked for, by every reader that knows the ASCII digits.  The
number is the nearest for integers of up to 310 digits; numerals that are longer
are not expanded.
-/

/-- A whole number written out with an exponent of zero is rounded like the integer. -/
theorem ofDecimal_whole
    {digits : Nat}
    (negative : Bool)
    (positive : 0 < digits)
    (short : decimalLength digits ≤ 310) :
    Binary64.ofDecimal negative digits 0 = Binary64.ofQuotient negative digits 1 := by
  have notZero : digits ≠ 0 := Nat.ne_of_gt positive
  have inside : ¬ (310 < (decimalLength digits : Int) + 0) := by omega
  have notSmall : ¬ (digits = 0 ∨ (decimalLength digits : Int) + 0 < -330) := by omega
  rw [Binary64.ofDecimal]
  simp only [if_neg notSmall, if_neg inside]
  simp

/-! The digits of an integer's text. -/

/-- The decimal of a natural number begins with a digit. -/
theorem exists_digit_naturalText (number : Nat) :
    ∃ first rest, (naturalText number).toList = first :: rest ∧ first.isDigit = true := by
  obtain ⟨first, rest, shape⟩ := List.exists_cons_of_ne_nil
    (Nat.toDigits_ne_nil : Nat.toDigits 10 number ≠ [])
  refine ⟨first, rest, by rw [naturalText, String.toList_ofList, shape], ?_⟩
  exact within_isDigit_toDigits number first (by simp [shape])

/-- The decimal of an integer is its sign, if it has one, and its digits. -/
theorem toList_integerText (integer : Int) :
    (integerText integer).toList =
      (if decide (integer < 0) then ['-'] else []) ++ (naturalText integer.natAbs).toList := by
  rw [integerText]
  by_cases negative : integer < 0
  · rw [if_pos negative, decide_eq_true negative, String.toList_append]
    rfl
  · rw [if_neg negative, decide_eq_false negative]
    rfl

theorem splitSign_integerText (integer : Int) :
    splitSign (trimWhere isWhiteSpace (integerText integer).toList) =
      (decide (integer < 0), (naturalText integer.natAbs).toList) := by
  have within := within_integerText integer
  rw [toList_integerText] at within ⊢
  exact splitSign_numeral within (exists_digit_naturalText _)

section Reading

variable {digit? : DigitReader}
  (knows : ∀ character, character.isDigit = true → digit? character = some (digitValue character))

include knows

/-- All of a whole number's text is a run of digits of its value. -/
theorem exists_digitRun_naturalText (number : Nat) :
    ∃ digit digits, digitRun digit? [] (naturalText number).toList = (digit :: digits, []) ∧
      valueOf 10 (digit :: digits) = number := by
  have run := @digitRun_known _ [] digit? knows [] (within_isDigit_toDigits number) Leaves.nil
  have value : valueOf 10 ((Nat.toDigits 10 number).map digitValue) = number := by
    rw [valueOf_map_digitValue, Nat.ofDigitChars_ten_toDigits]
  have someDigits : (Nat.toDigits 10 number).map digitValue ≠ [] := by
    simp [Nat.toDigits_ne_nil]
  obtain ⟨digit, digits, shape⟩ := List.exists_cons_of_ne_nil someDigits
  rw [List.append_nil, List.reverse_nil, List.nil_append, shape] at run
  rw [shape] at value
  exact ⟨digit, digits, by rw [naturalText, String.toList_ofList, run], value⟩

/-- The digits of a whole number are read as the number with the exponent zero. -/
theorem unsignedReal?_naturalText
    (negative : Bool)
    (number : Nat) :
    unsignedReal? digit? negative (naturalText number).toList =
      some (Binary64.ofDecimal negative number 0) := by
  obtain ⟨digit, digits, run, value⟩ := exists_digitRun_naturalText knows number
  rw [unsignedReal?, run]
  simp [value, exponent?]

/-- The text of an integer is read as the number nearest to the integer. -/
theorem real?_integerText
    {integer : Int}
    (short : decimalLength integer.natAbs ≤ 310) :
    real? digit? (integerText integer).toList = some (.ofInt integer) := by
  have within := within_integerText integer
  rw [toList_integerText] at within ⊢
  rw [real?_of_unsigned within (exists_digit_naturalText _), unsignedReal?_naturalText knows]
  rcases Nat.eq_zero_or_pos integer.natAbs with isZero | positive
  · obtain rfl := Int.natAbs_eq_zero.mp isZero
    decide +kernel
  · rw [ofDecimal_whole _ positive short, Binary64.ofInt]

/-- The text of an integer is read as the integer itself where integers are asked for. -/
theorem integralNumeral?_integerText (integer : Int) :
    integralNumeral? digit? (integerText integer).toList = some integer := by
  obtain ⟨digit, digits, run, value⟩ := exists_digitRun_naturalText knows integer.natAbs
  have signed : withSign (decide (integer < 0)) integer.natAbs = integer := by
    rw [withSign]
    by_cases negative : integer < 0
    · rw [decide_eq_true negative, if_pos rfl]
      omega
    · rw [decide_eq_false negative, if_neg Bool.false_ne_true]
      omega
  rw [integralNumeral?, splitSign_integerText]
  simp only [run, value, signed]

end Reading

end Number

end ExpertAdvisor
