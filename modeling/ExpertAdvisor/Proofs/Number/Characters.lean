import ExpertAdvisor.Number.DecimalText
import ExpertAdvisor.Proofs.Text.Classes

namespace ExpertAdvisor.Number

open Text

/-!
# Characters of numbers

The decimal text of a number consists of digits, signs, points and exponent
marks, and of nothing that could end or break the code it stands in.
-/

/-- Whether a character may stand in the text of a finite number. -/
def isNumeralCharacter (character : Char) : Bool :=
  character.isDigit || ['.', 'e', '+', '-'].contains character

theorem isNumeralCharacter_iff {character : Char} :
    isNumeralCharacter character = true ↔
      character.isDigit = true ∨ character ∈ ['.', 'e', '+', '-'] := by
  simp [isNumeralCharacter]

/-- The code points of the ASCII digits. -/
theorem toNat_of_isDigit
    {character : Char}
    (isDigit : character.isDigit = true) :
    48 ≤ character.toNat ∧ character.toNat ≤ 57 := by
  simpa [Char.isDigit, Char.le_def, UInt32.le_iff_toNat_le] using isDigit

/-- No character of a numeral is blank. -/
theorem isBlank_eq_false_of_isNumeralCharacter
    {character : Char}
    (isNumeral : isNumeralCharacter character = true) :
    isBlank character = false := by
  rcases isNumeralCharacter_iff.mp isNumeral with isDigit | isMark
  · have bounds := toNat_of_isDigit isDigit
    simp only [isBlank, isWhiteSpace, isPlainBlank, isForeignBlank, Bool.or_eq_false_iff,
      Bool.and_eq_false_iff, beq_eq_false_iff_ne, decide_eq_false_iff_not]
    omega
  · simp only [List.mem_cons, List.not_mem_nil, or_false] at isMark
    rcases isMark with rfl | rfl | rfl | rfl <;> decide

theorem within_isDigit_toDigits (number : Nat) :
    Within Char.isDigit (Nat.toDigits 10 number) := fun _ member =>
  Nat.isDigit_of_mem_toDigits (by decide) (by decide) member

theorem within_isDigit_zeros (count : Nat) :
    Within Char.isDigit (List.replicate count '0') := fun _ member => by
  rw [List.eq_of_mem_replicate member]
  decide

theorem isNumeralCharacter_of_isDigit
    {character : Char}
    (isDigit : character.isDigit = true) :
    isNumeralCharacter character = true :=
  isNumeralCharacter_iff.mpr (.inl isDigit)

theorem within_toDigits (number : Nat) :
    Within isNumeralCharacter (Nat.toDigits 10 number) :=
  (within_isDigit_toDigits number).mono isNumeralCharacter_of_isDigit

theorem within_naturalText (number : Nat) :
    Within isNumeralCharacter (naturalText number).toList := by
  rw [naturalText, String.toList_ofList]
  exact within_toDigits number

theorem within_integerText (number : Int) :
    Within isNumeralCharacter (integerText number).toList := by
  rw [integerText]
  split
  · rw [String.toList_append, Within.append_iff]
    exact ⟨by decide, within_naturalText _⟩
  · exact within_naturalText _

theorem within_zeros (count : Nat) :
    Within isNumeralCharacter (List.replicate count '0') :=
  (within_isDigit_zeros count).mono isNumeralCharacter_of_isDigit

end ExpertAdvisor.Number

namespace ExpertAdvisor

open Text Number

namespace DecimalFormat

variable {digits : List Char}

theorem within_exponentText
    (format : DecimalFormat)
    (exponent : Int) :
    Within isNumeralCharacter (format.exponentText exponent).toList := by
  rw [exponentText, String.toList_append, String.toList_append, String.toList_ofList,
    Within.append_iff, Within.append_iff]
  refine ⟨⟨?_, within_zeros _⟩, within_naturalText _⟩
  split <;> decide

theorem within_positional
    (places : Int)
    (within : Within isNumeralCharacter digits) :
    Within isNumeralCharacter (positional digits places).toList := by
  have whole : Within isNumeralCharacter (digits.take places.natAbs) :=
    fun character member => within character (List.mem_of_mem_take member)
  rw [positional]
  split
  · rw [String.toList_ofList, Within.append_iff, Within.append_iff]
    exact ⟨⟨by decide, within_zeros _⟩, within⟩
  · split
    · rw [String.toList_ofList, Within.append_iff, Within.append_iff]
      exact ⟨⟨whole, within_zeros _⟩, by decide⟩
    · rename_i fraction _
      have fractionWithin : Within isNumeralCharacter (digits.drop places.natAbs) :=
        fun character member => within character (List.mem_of_mem_drop member)
      rw [String.toList_ofList, Within.append_iff, Within.cons_iff]
      exact ⟨whole, by decide, fractionWithin⟩

theorem within_scientific
    (format : DecimalFormat)
    (exponent : Int)
    (within : Within isNumeralCharacter digits) :
    Within isNumeralCharacter (format.scientific digits exponent).toList := by
  have ending := format.within_exponentText exponent
  rcases digits with _ | ⟨first, _ | ⟨second, more⟩⟩
  · simpa [scientific] using ending
  · simpa [scientific] using And.intro within ending
  · have point : isNumeralCharacter '.' = true := by decide
    simp only [Within.cons_iff] at within
    simpa [scientific, point, and_assoc] using And.intro within ending

end DecimalFormat

/-- The text of a finite number consists of characters of a number. -/
theorem FiniteBinary64.within_text (number : FiniteBinary64) :
    Within isNumeralCharacter number.text.toList := by
  have sign : Within isNumeralCharacter (if number.negative then "-" else "").toList := by
    split <;> decide
  have digits := within_toDigits number.shortest.digits
  rw [FiniteBinary64.text, DecimalFormat.finiteText]
  split <;> rw [String.toList_append, Within.append_iff]
  · exact ⟨sign, by decide⟩
  · refine ⟨sign, ?_⟩
    rw [DecimalFormat.decimalText]
    split
    · exact DecimalFormat.within_positional _ digits
    · exact DecimalFormat.within_scientific _ _ digits

end ExpertAdvisor
