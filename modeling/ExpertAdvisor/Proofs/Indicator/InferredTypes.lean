import ExpertAdvisor.Indicator.CarriedType
import ExpertAdvisor.Number.Numeral
import ExpertAdvisor.Proofs.Text.Classes
import Mathlib.Tactic.FinCases

namespace ExpertAdvisor.Indicator

open Text Number

/-!
# Types inferred from integers

A default that is an integer literal suggests the type `int`, whatever its value
is: only the shape of the text counts.  So the suggested type can hold the
literal exactly when the literal's value is in the range of `int`.
-/

/-! Integer literals and their values. -/

/-- The value of digits in a base; no digits at all have none. -/
def digitsValue?
    (base : Nat)
    (digit? : DigitReader)
    (digits : List Char) : Option Nat :=
  if digits.isEmpty then none else (digits.mapM digit?).map (valueOf base)

/-- The value of digits, which are hexadecimal behind `0x`. -/
def unsignedValue? : List Char → Option Nat
  | '0' :: 'x' :: digits => digitsValue? 16 hexDigit? digits
  | '0' :: 'X' :: digits => digitsValue? 16 hexDigit? digits
  | digits => digitsValue? 10 decimalDigit? digits

/-- The value of an integer literal: digits behind a sign or none. -/
def integerValue? (characters : List Char) : Option Int :=
  (unsignedValue? (splitSign characters).2).map (withSign (splitSign characters).1)

/-- The least and the greatest number of so many binary digits, one of them for the sign. -/
def signedRange (bits : Nat) : Int × Int :=
  (-(Nat.pow 2 (bits - 1) : Nat), (Nat.pow 2 (bits - 1) : Nat) - 1)

/-- The least and the greatest number of so many binary digits. -/
def unsignedRange (bits : Nat) : Int × Int :=
  (0, (Nat.pow 2 bits : Nat) - 1)

/-- The integer types with their ranges. -/
def integerTypes : List (String × Int × Int) :=
  [("char", signedRange 8), ("uchar", unsignedRange 8),
    ("short", signedRange 16), ("ushort", unsignedRange 16),
    ("int", signedRange 32), ("uint", unsignedRange 32),
    ("long", signedRange 64), ("ulong", unsignedRange 64)]

/-- A type has room for an integer: a double for each, an integer type for those of its range. -/
def HasRoom
    (type : String)
    (value : Int) : Prop :=
  type = "double" ∨
    ∃ range, (type, range) ∈ integerTypes ∧ range.1 ≤ value ∧ value ≤ range.2

/-- An integer has the room of its type exactly when it is in the range of 32 bits. -/
theorem hasRoom_int_iff (value : Int) :
    HasRoom "int" value ↔ (signedRange 32).1 ≤ value ∧ value ≤ (signedRange 32).2 := by
  constructor
  · rintro (isDouble | ⟨range, isRange, inRange⟩)
    · exact absurd isDouble (by decide)
    · have only : ∀ known ∈ integerTypes, known.1 = "int" → known.2 = signedRange 32 := by decide
      obtain rfl : range = signedRange 32 := only _ isRange rfl
      exact inRange
  · exact fun inRange => .inr ⟨signedRange 32, by decide, inRange⟩

/-! Which texts are integer literals. -/

theorem isSome_mapM
    (digit? : DigitReader)
    (digits : List Char) :
    (digits.mapM digit?).isSome = digits.all fun character => (digit? character).isSome := by
  induction digits with
  | nil => rfl
  | cons character rest inductionHypothesis =>
      rw [List.mapM_cons, List.all_cons, ← inductionHypothesis]
      cases digit? character with
      | none => rfl
      | some digit => cases rest.mapM digit? <;> rfl

/-- A numeral has a value when it has digits, and each of them has a value. -/
theorem isSome_digitsValue?
    (base : Nat)
    (digit? : DigitReader)
    (digits : List Char) :
    (digitsValue? base digit? digits).isSome =
      (!digits.isEmpty && digits.all fun character => (digit? character).isSome) := by
  rw [digitsValue?]
  cases digits with
  | nil => rfl
  | cons first rest =>
      rw [List.isEmpty_cons, if_neg Bool.false_ne_true, Option.isSome_map, isSome_mapM]
      rfl

/-- What is left without the sign is what is split off from it. -/
theorem withoutSign_eq (characters : List Char) :
    withoutSign characters = (splitSign characters).2 := by
  cases characters with
  | nil => rfl
  | cons first rest =>
      by_cases plus : first = '+'
      · subst plus
        rfl
      · by_cases minus : first = '-'
        · subst minus
          rfl
        · rw [withoutSign, splitSign] <;> simp [plus, minus]

/-- Characters are digits exactly when they have a value. -/
theorem isDigits_eq (characters : List Char) :
    isDigits characters = (digitsValue? 10 decimalDigit? characters).isSome :=
  (isSome_digitsValue? 10 decimalDigit? characters).symm

/-- A text is an integer literal exactly when it has a value as one. -/
theorem isIntegerLiteral_eq (characters : List Char) :
    isIntegerLiteral characters = (integerValue? characters).isSome := by
  rw [isIntegerLiteral, integerValue?, Option.isSome_map, withoutSign_eq]
  generalize (splitSign characters).2 = unsigned
  rw [unsignedValue?.eq_def]
  split
  case h_1 marker digit digits =>
    by_cases small : marker = 'x'
    · subst small
      simp [isSome_digitsValue?]
    · by_cases capital : marker = 'X'
      · subst capital
        simp [isSome_digitsValue?]
      · simp [small, capital, isDigits_eq]
  case h_2 short =>
    rw [isDigits_eq]
    split
    case h_1 digits =>
      cases digits with
      | nil => rfl
      | cons digit more => exact absurd rfl (short _ _ _)
    case h_2 digits =>
      cases digits with
      | nil => rfl
      | cons digit more => exact absurd rfl (short _ _ _)
    case h_3 => rfl

/-! Which type a numeral suggests. -/

/-- A text begins like a numeral: with a sign or a digit. -/
def BeginsNumeral (characters : List Char) : Prop :=
  ∃ first rest, characters = first :: rest ∧ (first ∈ ['+', '-'] ∨ isDecimalDigit first = true)

theorem beginsWith_eq_false
    {mark first : Char}
    (differs : first ≠ mark)
    (more rest : List Char) :
    beginsWith (mark :: more) (first :: rest) = false := by
  rw [beginsWith, afterPrefix?, beq_false_of_ne differs]
  rfl

/-- A numeral is no name of a truth value, no quoted text, and no date or colour. -/
theorem inferredType_of_beginsNumeral
    {default : String}
    (begins : BeginsNumeral default.toList)
    (untrimmed : trimBlanks default.toList = default.toList) :
    inferredType default =
      if isIntegerLiteral default.toList then "int"
      else if isRealLiteral default.toList then "double"
      else "int" := by
  obtain ⟨first, rest, shape, isStart⟩ := begins
  have noOther (other : Char) (isOther : other ∈ ['t', 'f', '"', 'D', 'C', 'c']) :
      first ≠ other := by
    rintro rfl
    have noSign : ∀ known ∈ ['t', 'f', '"', 'D', 'C', 'c'], known ∉ ['+', '-'] := by simp
    have noDigit : ∀ known ∈ ['t', 'f', '"', 'D', 'C', 'c'], isDecimalDigit known = false := by
      intro known isKnown
      fin_cases isKnown <;> rfl
    rcases isStart with isSign | isDigit
    · exact noSign _ isOther isSign
    · exact Bool.eq_false_iff.mp (noDigit _ isOther) isDigit
  have noTruth : (first :: rest == "true".toList || first :: rest == "false".toList) = false := by
    rw [Bool.or_eq_false_iff, beq_eq_false_iff_ne, beq_eq_false_iff_ne]
    exact ⟨fun same => noOther 't' (by decide) (List.cons.inj same).1,
      fun same => noOther 'f' (by decide) (List.cons.inj same).1⟩
  have noQuote : isQuoted (first :: rest) = false := by
    simp [isQuoted, noOther '"' (by decide)]
  have noDate : beginsWith "D'".toList (first :: rest) = false :=
    beginsWith_eq_false (noOther 'D' (by decide)) _ _
  have noColour : (beginsWith "C'".toList (first :: rest) ||
      beginsWith "clr".toList (first :: rest)) = false :=
    Bool.or_eq_false_iff.mpr ⟨beginsWith_eq_false (noOther 'C' (by decide)) _ _,
      beginsWith_eq_false (noOther 'c' (by decide)) _ _⟩
  rw [inferredType, untrimmed, shape]
  simp only [noTruth, noQuote, noDate, noColour, Bool.false_eq_true, if_false]

/-! Integer literals have no blanks and suggest integers. -/

/-- A class without blanks leaves blanks out. -/
theorem isBlank_eq_false_of_class
    {belongs : Char → Bool}
    (outside : ∀ codePoint ∈ blankCodePoints, belongs (Char.ofNat codePoint) = false)
    {character : Char}
    (member : belongs character = true) :
    isBlank character = false := by
  refine Bool.eq_false_iff.mpr fun blank => ?_
  have notMember := outside _ (mem_blankCodePoints_of_isBlank blank)
  rw [Char.ofNat_toNat, member] at notMember
  exact Bool.noConfusion notMember

/-- The sign of a text is its first character, if it has one. -/
theorem splitSign_cases (characters : List Char) :
    characters = (splitSign characters).2 ∨
      ∃ sign ∈ ['+', '-'], characters = sign :: (splitSign characters).2 := by
  rw [splitSign.eq_def]
  split
  · exact .inr ⟨'-', by decide, rfl⟩
  · exact .inr ⟨'+', by decide, rfl⟩
  · exact .inl rfl

/-- Digits that have a value are some, and each of them is a digit. -/
theorem digits_of_value
    {base value : Nat}
    {digit? : DigitReader}
    {digits : List Char}
    (isValue : digitsValue? base digit? digits = some value) :
    digits ≠ [] ∧ ∀ character ∈ digits, (digit? character).isSome = true := by
  have given := Option.isSome_of_eq_some isValue
  rw [isSome_digitsValue?, Bool.and_eq_true, List.all_eq_true] at given
  refine ⟨?_, given.2⟩
  rintro rfl
  exact absurd given.1 (by decide)

/-- A text with a value begins with a digit and has no blanks. -/
theorem digitFirst_of_unsignedValue
    {unsigned : List Char}
    {value : Nat}
    (isValue : unsignedValue? unsigned = some value) :
    (∃ first rest, unsigned = first :: rest ∧ isDecimalDigit first = true) ∧
      ∀ character ∈ unsigned, isBlank character = false := by
  have decimal {character : Char} (isDigit : isDecimalDigit character = true) :
      isBlank character = false :=
    isBlank_eq_false_of_class (by decide +kernel) isDigit
  have hexadecimal {marker : Char} {digits : List Char} (noBlank : isBlank marker = false)
      (digitsValue : digitsValue? 16 hexDigit? digits = some value) :
      ∀ character ∈ '0' :: marker :: digits, isBlank character = false := by
    have hexDigit {character : Char} (isDigit : (hexDigit? character).isSome = true) :
        isBlank character = false :=
      @isBlank_eq_false_of_class (fun known => (hexDigit? known).isSome) (by decide +kernel) _
        isDigit
    simp only [List.mem_cons, forall_eq_or_imp]
    exact ⟨by decide, noBlank,
      fun character member => hexDigit ((digits_of_value digitsValue).2 character member)⟩
  rw [unsignedValue?.eq_def] at isValue
  split at isValue
  case h_1 => exact ⟨⟨_, _, rfl, by decide⟩, hexadecimal (by decide) isValue⟩
  case h_2 => exact ⟨⟨_, _, rfl, by decide⟩, hexadecimal (by decide) isValue⟩
  case h_3 =>
    obtain ⟨someDigits, allDigits⟩ := digits_of_value isValue
    obtain ⟨first, rest, rfl⟩ := List.exists_cons_of_ne_nil someDigits
    exact ⟨⟨first, rest, rfl, allDigits _ List.mem_cons_self⟩,
      fun character member => decimal (allDigits character member)⟩

/-- A text without blanks has nothing to trim. -/
theorem trimBlanks_of_noBlanks
    {characters : List Char}
    (noBlanks : ∀ character ∈ characters, isBlank character = false) :
    trimBlanks characters = characters :=
  trimWhere_of_leaves
    (fun character isFirst => noBlanks character (List.mem_of_mem_head? isFirst))
    fun character isLast =>
      noBlanks character (List.mem_reverse.mp (List.mem_of_mem_head? isLast))

/-- An integer literal begins like a numeral and has nothing to trim. -/
theorem beginsNumeral_of_integerValue
    {characters : List Char}
    {value : Int}
    (isValue : integerValue? characters = some value) :
    BeginsNumeral characters ∧ trimBlanks characters = characters := by
  obtain ⟨_, unsignedValue, _⟩ := Option.map_eq_some_iff.mp isValue
  obtain ⟨⟨first, rest, shape, isDigit⟩, noBlanks⟩ := digitFirst_of_unsignedValue unsignedValue
  rcases splitSign_cases characters with unsigned | ⟨sign, isSign, signed⟩
  · rw [← unsigned] at shape noBlanks
    exact ⟨⟨first, rest, shape, .inr isDigit⟩, trimBlanks_of_noBlanks noBlanks⟩
  · refine ⟨⟨sign, _, signed, .inl isSign⟩, trimBlanks_of_noBlanks ?_⟩
    have noBlankSign : ∀ known ∈ ['+', '-'], isBlank known = false := by
      intro known isKnown
      fin_cases isKnown <;> rfl
    rw [signed]
    simp only [List.mem_cons, forall_eq_or_imp]
    exact ⟨noBlankSign _ isSign, noBlanks⟩

/-- An integer literal suggests the type `int`, whatever its value is. -/
theorem inferredType_of_integerValue
    {text : String}
    {value : Int}
    (isValue : integerValue? text.toList = some value) :
    inferredType text = "int" := by
  obtain ⟨begins, untrimmed⟩ := beginsNumeral_of_integerValue isValue
  have isLiteral : isIntegerLiteral text.toList = true := by
    rw [isIntegerLiteral_eq, isValue, Option.isSome_some]
  rw [inferredType_of_beginsNumeral begins untrimmed, if_pos isLiteral]

/--
The type that an integer literal suggests has room for the literal's value
exactly when the value is one of 32 binary digits with a sign.
-/
theorem inferredType_hasRoom_iff
    {text : String}
    {value : Int}
    (isValue : integerValue? text.toList = some value) :
    inferredType text = "int" ∧
      (HasRoom (inferredType text) value ↔ -2147483648 ≤ value ∧ value ≤ 2147483647) := by
  have isInt := inferredType_of_integerValue isValue
  rw [isInt, hasRoom_int_iff]
  exact ⟨rfl, .rfl⟩

/-- The least number that has a room, in hexadecimal digits. -/
theorem inferredType_hasRoom_iff_least :
    integerValue? "-0x080000000".toList = some (-2147483648) ∧
      HasRoom (inferredType "-0x080000000") (-2147483648) := by
  have isValue : integerValue? "-0x080000000".toList = some (-2147483648) := by decide +kernel
  exact ⟨isValue, (inferredType_hasRoom_iff isValue).2.mpr (by decide)⟩

/-- The type that is suggested for an integer of 64 binary digits need not have room for it. -/
theorem inferredType_hasNoRoom :
    integerValue? "2147483648".toList = some 2147483648 ∧
      ((signedRange 64).1 ≤ 2147483648 ∧ 2147483648 ≤ (signedRange 64).2) ∧
      ¬ HasRoom (inferredType "2147483648") 2147483648 := by
  have isValue : integerValue? "2147483648".toList = some 2147483648 := by decide +kernel
  refine ⟨isValue, by decide, fun room => ?_⟩
  rw [inferredType_of_integerValue isValue, hasRoom_int_iff] at room
  exact absurd room (by decide)

end ExpertAdvisor.Indicator
