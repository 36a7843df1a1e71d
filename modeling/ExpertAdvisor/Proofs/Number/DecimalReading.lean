import ExpertAdvisor.Advisor.Literal
import ExpertAdvisor.Number.Numeral
import ExpertAdvisor.Proofs.Number.Characters
import ExpertAdvisor.Proofs.Number.ShortestDecimal

namespace ExpertAdvisor

open Text Number FiniteBinary64

/-!
# Reading decimal text back

The text of a number is read digit by digit as a decimal of the same value as
the number's shortest decimal, in positional and in exponent form.  That decimal
rounds to the number, so a finite number's literal is read as the number.
-/

namespace Number

/-- Whether a character continues a run of digits. -/
def continuesDigits (character : Char) : Bool :=
  character.isDigit || character == '_'

/-- The value of a decimal digit. -/
def digitValue (character : Char) : Nat :=
  character.toNat - '0'.toNat

variable {digits whole fraction ending : List Char}

theorem asciiDigit?_of_isDigit
    {character : Char}
    (isDigit : character.isDigit = true) :
    asciiDigit? character = some (digitValue character) :=
  if_pos isDigit

theorem decimalDigit?_of_isDigit
    (character : Char)
    (isDigit : character.isDigit = true) :
    decimalDigit? character = some (digitValue character) := by
  have bounds := toNat_of_isDigit isDigit
  rw [decimalDigit?, if_pos (by omega)]
  exact asciiDigit?_of_isDigit isDigit

/-- A reader that knows the ASCII digits reads a run of them, whatever else it knows. -/
theorem digitRun_known
    {digit? : DigitReader}
    (knows : ∀ character, character.isDigit = true → digit? character = some (digitValue character))
    (read : List Nat)
    (within : Within Char.isDigit digits)
    (leaves : Leaves (fun character => (digit? character).isSome || character == '_') ending) :
    digitRun digit? read (digits ++ ending) = (read.reverse ++ digits.map digitValue, ending) := by
  induction digits generalizing read with
  | nil =>
      cases ending with
      | nil => simp [digitRun]
      | cons character rest =>
          have outside := Leaves.cons_iff.mp leaves
          rw [Bool.or_eq_false_iff, Option.isSome_eq_false_iff,
            Option.isNone_iff_eq_none] at outside
          simp [digitRun, outside.1, outside.2]
  | cons character rest inductionHypothesis =>
      obtain ⟨isDigit, restWithin⟩ := Within.cons_iff.mp within
      have goesOn := inductionHypothesis (digitValue character :: read) restWithin
      simp [digitRun, knows character isDigit, goesOn]

/-- A run of digits is read to its end. -/
theorem digitRun_digits
    (read : List Nat)
    (within : Within Char.isDigit digits)
    (leaves : Leaves continuesDigits ending) :
    digitRun asciiDigit? read (digits ++ ending) =
      (read.reverse ++ digits.map digitValue, ending) := by
  refine digitRun_known (fun _ => asciiDigit?_of_isDigit) read within fun character isFirst => ?_
  have outside := leaves character isFirst
  rw [continuesDigits, Bool.or_eq_false_iff] at outside
  simp [asciiDigit?, outside.1, outside.2]

/-- The value of digits is that of the number they write. -/
theorem valueOf_map_digitValue (digits : List Char) :
    valueOf 10 (digits.map digitValue) = Nat.ofDigitChars 10 digits 0 := by
  simp only [valueOf, valueFrom, List.foldl_map, Nat.ofDigitChars, digitValue, Nat.mul_comm]

/-- Reads the digits behind a point, if there is one. -/
def fractionRun (digit? : DigitReader) : List Char → List Nat × List Char
  | '.' :: afterPoint => digitRun digit? [] afterPoint
  | other => ([], other)

theorem fractionRun_of_noPoint
    {digit? : DigitReader}
    {rest : List Char}
    (noPoint : rest.head? ≠ some '.') :
    fractionRun digit? rest = ([], rest) := by
  rw [fractionRun.eq_def]
  split
  case h_1 => exact absurd rfl noPoint
  case h_2 => rfl

/-- The exact decimal that an unsigned numeral shows. -/
def unsignedDecimal?
    (digit? : DigitReader)
    (characters : List Char) : Option Decimal :=
  let (whole, rest) := digitRun digit? [] characters
  let (fraction, ending) := fractionRun digit? rest
  if whole.isEmpty && fraction.isEmpty then
    none
  else
    (exponent? digit? ending).map fun exponent =>
      ⟨valueOf 10 (whole ++ fraction), exponent - fraction.length⟩

/-- An unsigned numeral is read exactly, and then rounded. -/
theorem unsignedReal?_eq
    (digit? : DigitReader)
    (negative : Bool)
    (characters : List Char) :
    unsignedReal? digit? negative characters =
      (unsignedDecimal? digit? characters).map fun decimal =>
        Binary64.ofDecimal negative decimal.digits decimal.exponent := by
  simp only [unsignedReal?, unsignedDecimal?]
  rw [apply_ite (Option.map _), Option.map_map]
  rfl

/-- Digits with a fraction, and an exponent or nothing behind them. -/
theorem unsignedDecimal?_fraction
    {exponent : Int}
    (someWhole : whole ≠ [])
    (wholeWithin : Within Char.isDigit whole)
    (fractionWithin : Within Char.isDigit fraction)
    (leaves : Leaves continuesDigits ending)
    (exponentRead : exponent? asciiDigit? ending = some exponent) :
    unsignedDecimal? asciiDigit? (whole ++ '.' :: (fraction ++ ending)) =
      some ⟨Nat.ofDigitChars 10 (whole ++ fraction) 0, exponent - fraction.length⟩ := by
  have point : Leaves continuesDigits ('.' :: (fraction ++ ending)) := by
    rw [Leaves.cons_iff]
    decide
  have wholeRun := digitRun_digits [] wholeWithin point
  have behindPoint := digitRun_digits [] fractionWithin leaves
  have value := valueOf_map_digitValue (whole ++ fraction)
  rw [List.map_append] at value
  simp [unsignedDecimal?, wholeRun, fractionRun, behindPoint, someWhole, exponentRead, value]

/-- Digits without a point, and an exponent behind them. -/
theorem unsignedDecimal?_whole
    {exponent : Int}
    (someWhole : whole ≠ [])
    (wholeWithin : Within Char.isDigit whole)
    (leaves : Leaves continuesDigits ending)
    (noPoint : ending.head? ≠ some '.')
    (exponentRead : exponent? asciiDigit? ending = some exponent) :
    unsignedDecimal? asciiDigit? (whole ++ ending) =
      some ⟨Nat.ofDigitChars 10 whole 0, exponent⟩ := by
  have wholeRun := digitRun_digits [] wholeWithin leaves
  simp [unsignedDecimal?, wholeRun, fractionRun_of_noPoint noPoint, someWhole, exponentRead,
    valueOf_map_digitValue]

end Number

/-- Zeros in front of the end multiply by ten each. -/
theorem Number.ofDigitChars_zeros
    (count start : Nat) :
    Nat.ofDigitChars 10 (List.replicate count '0') start = start * 10 ^ count := by
  induction count generalizing start with
  | zero => exact (Nat.mul_one start).symm
  | succ more inductionHypothesis =>
      rw [List.replicate_succ, Nat.ofDigitChars_cons, Nat.sub_self, Nat.add_zero,
        inductionHypothesis, Nat.pow_succ']
      ring

/-- Zeros in front of the digits of a number add nothing. -/
theorem Number.ofDigitChars_zeros_toDigits
    (count number : Nat) :
    Nat.ofDigitChars 10 (List.replicate count '0' ++ Nat.toDigits 10 number) 0 = number := by
  rw [Nat.ofDigitChars_append, ofDigitChars_zeros, Nat.zero_mul, Nat.ofDigitChars_ten_toDigits]

/-- A text that begins with a digit, shows a double, and is read as a decimal of a value. -/
structure ReadsAs
    (text : List Char)
    (value : ℚ) : Prop where
  beginsWithDigit : ∃ first rest, text = first :: rest ∧ first.isDigit = true
  showsDouble : text.any (fun character => character == '.' || character == 'e') = true
  read : ∃ decimal, decimal.value = value ∧ unsignedDecimal? asciiDigit? text = some decimal

namespace DecimalFormat

/-- An exponent is read back. -/
theorem exponent?_exponentText
    (format : DecimalFormat)
    (exponent : Int) :
    exponent? asciiDigit? (format.exponentText exponent).toList = some exponent := by
  let zeros := format.exponentDigits - (naturalText exponent.natAbs).length
  let digits := List.replicate zeros '0' ++ Nat.toDigits 10 exponent.natAbs
  have within : Within Char.isDigit digits :=
    Within.append_iff.mpr ⟨within_isDigit_zeros zeros, within_isDigit_toDigits _⟩
  have run : digitRun asciiDigit? [] digits = (digits.map digitValue, []) := by
    simpa using digitRun_digits [] within Leaves.nil
  have value : valueOf 10 (digits.map digitValue) = exponent.natAbs := by
    rw [valueOf_map_digitValue, ofDigitChars_zeros_toDigits]
  have someDigits : digits.map digitValue ≠ [] := by
    simp [digits, Nat.toDigits_ne_nil]
  obtain ⟨first, more, shape⟩ := List.exists_cons_of_ne_nil someDigits
  rw [shape] at run value
  by_cases negative : exponent < 0
  · have text : (format.exponentText exponent).toList = 'e' :: '-' :: digits := by
      simp [exponentText, negative, naturalText, digits, zeros]
    have restored : withSign true exponent.natAbs = exponent := by
      rw [withSign, if_pos rfl]
      omega
    simp [text, exponent?, splitSign, run, value, restored]
  · have text : (format.exponentText exponent).toList = 'e' :: '+' :: digits := by
      simp [exponentText, negative, naturalText, digits, zeros]
    have restored : withSign false exponent.natAbs = exponent := by
      rw [withSign, if_neg Bool.false_ne_true]
      omega
    simp [text, exponent?, splitSign, run, value, restored]

theorem exists_exponentText_eq
    (format : DecimalFormat)
    (exponent : Int) :
    ∃ rest, (format.exponentText exponent).toList = 'e' :: rest := by
  rw [exponentText]
  split <;> exact ⟨_, by simp; rfl⟩

/-- Digits on both sides of a point are read as a decimal. -/
theorem readsAs_point
    {whole fraction : List Char}
    {decimal : Decimal}
    (someWhole : whole ≠ [])
    (wholeWithin : Within Char.isDigit whole)
    (fractionWithin : Within Char.isDigit fraction)
    (same : (Nat.ofDigitChars 10 (whole ++ fraction) 0 : ℚ) * 10 ^ (-(fraction.length : Int)) =
      decimal.value) :
    ReadsAs (whole ++ '.' :: fraction) decimal.value where
  beginsWithDigit := by
    obtain ⟨first, more, rfl⟩ := List.exists_cons_of_ne_nil someWhole
    exact ⟨first, more ++ '.' :: fraction, rfl, (Within.cons_iff.mp wholeWithin).1⟩
  showsDouble := by simp
  read := by
    refine ⟨⟨Nat.ofDigitChars 10 (whole ++ fraction) 0, -(fraction.length : Int)⟩, same, ?_⟩
    have reading := unsignedDecimal?_fraction someWhole wholeWithin fractionWithin Leaves.nil rfl
    rwa [List.append_nil, zero_sub] at reading

section Positional

variable {digits : List Char} {decimal : Decimal}

/-! Digits with the point before them, behind them, and among them. -/

/-- A decimal with all digits behind its point is read back. -/
theorem readsAs_pointBefore
    (digitsWithin : Within Char.isDigit digits)
    (digitsValue : Nat.ofDigitChars 10 digits 0 = decimal.digits)
    {zeros : Nat}
    (exponent : decimal.exponent = -((zeros + digits.length : Nat) : Int)) :
    ReadsAs (['0'] ++ '.' :: (List.replicate zeros '0' ++ digits)) decimal.value := by
  refine readsAs_point (List.cons_ne_nil _ _) (by decide)
    (Within.append_iff.mpr ⟨within_isDigit_zeros _, digitsWithin⟩) ?_
  have noValue : Nat.ofDigitChars 10 ['0'] 0 = 0 := rfl
  rw [Nat.ofDigitChars_append, Nat.ofDigitChars_append, ofDigitChars_zeros, noValue, Nat.zero_mul,
    digitsValue, List.length_append, List.length_replicate, ← exponent, Decimal.value]

theorem readsAs_pointBehind
    (digitsWithin : Within Char.isDigit digits)
    (digitsValue : Nat.ofDigitChars 10 digits 0 = decimal.digits)
    (someDigits : 0 < digits.length)
    {zeros : Nat}
    (exponent : decimal.exponent = zeros) :
    ReadsAs ((digits ++ List.replicate zeros '0') ++ '.' :: ['0']) decimal.value := by
  refine readsAs_point (by simp [← List.length_pos_iff, someDigits])
    (Within.append_iff.mpr ⟨digitsWithin, within_isDigit_zeros _⟩) (by decide) ?_
  have value : Nat.ofDigitChars 10 ((digits ++ List.replicate zeros '0') ++ ['0']) 0 =
      decimal.digits * 10 ^ zeros * 10 := by
    rw [Nat.ofDigitChars_append, Nat.ofDigitChars_append, digitsValue, ofDigitChars_zeros]
    exact Nat.mul_comm _ _
  rw [value, Decimal.value, exponent, zpow_natCast, List.length_singleton, Nat.cast_one,
    zpow_neg_one]
  push_cast
  ring

theorem readsAs_pointAmong
    (digitsWithin : Within Char.isDigit digits)
    (digitsValue : Nat.ofDigitChars 10 digits 0 = decimal.digits)
    {places : Nat}
    (somePlaces : 0 < places)
    (inDigits : places < digits.length)
    (exponent : decimal.exponent = (places : Int) - digits.length) :
    ReadsAs (digits.take places ++ '.' :: digits.drop places) decimal.value := by
  have wholeWithin : Within Char.isDigit (digits.take places) := fun character member =>
    digitsWithin character (List.mem_of_mem_take member)
  have fractionWithin : Within Char.isDigit (digits.drop places) := fun character member =>
    digitsWithin character (List.mem_of_mem_drop member)
  have someWhole : digits.take places ≠ [] := by
    rw [← List.length_pos_iff, List.length_take]
    omega
  have length : -((digits.drop places).length : Int) = decimal.exponent := by
    rw [List.length_drop]
    omega
  refine readsAs_point someWhole wholeWithin fractionWithin ?_
  rw [length, List.take_append_drop, digitsValue, Decimal.value]

end Positional

/-- A decimal with a point is read back. -/
theorem readsAs_positional (decimal : Decimal) :
    ReadsAs (positional (Nat.toDigits 10 decimal.digits)
      (decimal.exponent + (Nat.toDigits 10 decimal.digits).length)).toList decimal.value := by
  have digitsWithin := within_isDigit_toDigits decimal.digits
  have digitsValue : Nat.ofDigitChars 10 (Nat.toDigits 10 decimal.digits) 0 = decimal.digits :=
    Nat.ofDigitChars_ten_toDigits
  have someDigits : 0 < (Nat.toDigits 10 decimal.digits).length := Nat.length_toDigits_pos
  generalize Nat.toDigits 10 decimal.digits = digits at digitsWithin digitsValue someDigits ⊢
  generalize placesShape : decimal.exponent + digits.length = places
  rw [positional]
  split
  case isTrue before =>
    rw [String.toList_ofList]
    exact readsAs_pointBefore digitsWithin digitsValue (by omega)
  case isFalse inside =>
    dsimp only
    split
    case h_1 short =>
      have reached : digits.length ≤ places.natAbs := List.drop_eq_nil_iff.mp short
      rw [String.toList_ofList, List.take_of_length_le reached]
      exact readsAs_pointBehind digitsWithin digitsValue someDigits (by omega)
    case h_2 fraction shape =>
      have inDigits : places.natAbs < digits.length := by
        by_contra reached
        exact shape (List.drop_eq_nil_iff.mpr (Nat.le_of_not_lt reached))
      rw [String.toList_ofList]
      exact readsAs_pointAmong digitsWithin digitsValue (by omega) inDigits (by omega)

theorem readsAs_scientific
    (format : DecimalFormat)
    (decimal : Decimal) :
    ReadsAs (format.scientific (Nat.toDigits 10 decimal.digits)
      (decimal.exponent + (Nat.toDigits 10 decimal.digits).length - 1)).toList decimal.value := by
  have digitsWithin := within_isDigit_toDigits decimal.digits
  have digitsValue : Nat.ofDigitChars 10 (Nat.toDigits 10 decimal.digits) 0 = decimal.digits :=
    Nat.ofDigitChars_ten_toDigits
  obtain ⟨first, more, shape⟩ := List.exists_cons_of_ne_nil
    (Nat.toDigits_ne_nil : Nat.toDigits 10 decimal.digits ≠ [])
  rw [shape] at digitsWithin digitsValue ⊢
  obtain ⟨firstDigit, moreWithin⟩ := Within.cons_iff.mp digitsWithin
  have firstWithin : Within Char.isDigit [first] := by simpa using firstDigit
  have length : decimal.exponent + ((first :: more).length : Int) - 1 =
      decimal.exponent + more.length := by
    rw [List.length_cons]
    omega
  rw [length]
  have exponentRead := format.exponent?_exponentText (decimal.exponent + more.length)
  obtain ⟨rest, marked⟩ := format.exists_exponentText_eq (decimal.exponent + more.length)
  have leaves : Leaves continuesDigits
      (format.exponentText (decimal.exponent + more.length)).toList := by
    rw [marked, Leaves.cons_iff]
    decide
  cases more with
  | nil =>
      have text : (format.scientific [first] (decimal.exponent + ([] : List Char).length)).toList =
          [first] ++ (format.exponentText (decimal.exponent + ([] : List Char).length)).toList := by
        simp [scientific]
      refine ⟨⟨first, _, by rw [text]; rfl, firstDigit⟩, by rw [text, marked]; simp,
        decimal, rfl, ?_⟩
      have reading := unsignedDecimal?_whole (List.cons_ne_nil _ _) firstWithin leaves
        (by rw [marked]; simp) exponentRead
      rw [text, reading, digitsValue]
      simp
  | cons second others =>
      have text : (format.scientific (first :: second :: others)
          (decimal.exponent + (second :: others).length)).toList =
          [first] ++ '.' :: ((second :: others) ++
            (format.exponentText (decimal.exponent + (second :: others).length)).toList) := by
        simp [scientific]
      refine ⟨⟨first, _, by rw [text]; rfl, firstDigit⟩, by rw [text]; simp, decimal, rfl, ?_⟩
      have reading := unsignedDecimal?_fraction (List.cons_ne_nil _ _) firstWithin moreWithin
        leaves exponentRead
      rw [text, reading, List.singleton_append, digitsValue, add_sub_cancel_right]

/-- A decimal is read back from either of its forms. -/
theorem readsAs_decimalText
    (format : DecimalFormat)
    (decimal : Decimal) :
    ReadsAs (format.decimalText decimal).toList decimal.value := by
  rw [decimalText]
  split
  · rw [sub_add_cancel]
    exact readsAs_positional decimal
  · exact format.readsAs_scientific decimal

end DecimalFormat

/-- The text of a number other than zero: its sign, and its shortest decimal. -/
theorem toList_text
    {number : FiniteBinary64}
    (notZero : number.significand ≠ 0) :
    number.text.toList = (if number.negative then ['-'] else []) ++
      (plainFormat.decimalText number.shortest).toList := by
  have notIsZero : number.isZero = false := beq_eq_false_iff_ne.mpr notZero
  rw [FiniteBinary64.text, DecimalFormat.finiteText, notIsZero, if_neg Bool.false_ne_true,
    String.toList_append]
  cases number.negative <;> rfl

/-- A zero has no other fields than its sign. -/
theorem eq_zero
    {number : FiniteBinary64}
    (isZero : number.significand = 0) :
    number = FiniteBinary64.zero number.negative := by
  have least : number.scale = 0 := number.canonical.resolve_right fun normal => by
    rw [isZero] at normal
    exact absurd normal (by decide)
  cases number with
  | mk negative significand scale =>
      obtain rfl : significand = 0 := isZero
      obtain rfl : scale = 0 := least
      rfl

namespace Number

/-- A numeral has no white space around it. -/
theorem trimWhere_numeral
    {characters : List Char}
    (within : Within isNumeralCharacter characters) :
    trimWhere isWhiteSpace characters = characters := by
  have outside {character : Char} (member : character ∈ characters) :
      isWhiteSpace character = false := by
    have notBlank := isBlank_eq_false_of_isNumeralCharacter (within character member)
    exact (Bool.or_eq_false_iff.mp notBlank).1
  refine trimWhere_of_leaves (fun character isFirst => ?_) fun character isLast => ?_
  · exact outside (List.mem_of_mem_head? isFirst)
  · exact outside (List.mem_reverse.mp (List.mem_of_mem_head? isLast))

/-- What does not begin like a name of a number names none. -/
theorem namedReal?_of_start
    {first : Char}
    (negative : Bool)
    (noName : first.toLower ∉ ['i', 'n'])
    (rest : List Char) :
    namedReal? negative (first :: rest) = none := by
  have differs
      (name : String)
      (named : ∀ head ∈ name.toList.head?, head ∈ ['i', 'n']) :
      (String.ofList ((first :: rest).map Char.toLower) == name) = false := by
    refine beq_eq_false_iff_ne.mpr fun same => ?_
    have characters := congrArg String.toList same
    rw [String.toList_ofList, List.map_cons] at characters
    rw [← characters] at named
    exact noName (named first.toLower rfl)
  simp only [namedReal?]
  rw [differs "inf" (by simp), differs "infinity" (by simp), differs "nan" (by simp)]
  rfl

/-- What begins with a digit names no number. -/
theorem namedReal?_of_digit
    {first : Char}
    (negative : Bool)
    (isDigit : first.isDigit = true)
    (rest : List Char) :
    namedReal? negative (first :: rest) = none := by
  have lower : first.toLower = first := by
    have bounds := toNat_of_isDigit isDigit
    have notUpper : ¬ (first.val ≥ 'A'.val ∧ first.val ≤ 'Z'.val) := by
      rintro ⟨atLeast, _⟩
      have atLeastUpper : 65 ≤ first.toNat := UInt32.le_iff_toNat_le.mp atLeast
      omega
    exact dif_neg notUpper
  refine namedReal?_of_start negative (fun isName => ?_) rest
  rw [lower, List.mem_cons, List.mem_singleton] at isName
  rcases isName with rfl | rfl <;> exact absurd isDigit (by decide)

/-- What does not begin with a sign is unsigned. -/
theorem splitSign_of_start
    {first : Char}
    (noSign : first ∉ ['+', '-'])
    (rest : List Char) :
    splitSign (first :: rest) = (false, first :: rest) := by
  rw [splitSign.eq_def]
  split
  case h_1 shape => exact absurd (by simp [(List.cons.inj shape).1]) noSign
  case h_2 shape => exact absurd (by simp [(List.cons.inj shape).1]) noSign
  case h_3 => rfl

theorem not_sign_of_isDigit
    {character : Char}
    (isDigit : character.isDigit = true) :
    character ∉ ['+', '-'] := by
  intro isSign
  rw [List.mem_cons, List.mem_singleton] at isSign
  rcases isSign with rfl | rfl <;> exact absurd isDigit (by decide)

section Signed

variable {unsigned : List Char} {negative : Bool}

/-- The sign of a numeral is a minus or is left out. -/
theorem splitSign_signed
    (beginsWithDigit : ∃ first rest, unsigned = first :: rest ∧ first.isDigit = true) :
    splitSign ((if negative then ['-'] else []) ++ unsigned) = (negative, unsigned) := by
  obtain ⟨first, rest, rfl, isDigit⟩ := beginsWithDigit
  cases negative with
  | false => exact splitSign_of_start (not_sign_of_isDigit isDigit) rest
  | true => rfl

/-- A signed numeral has nothing around it. -/
theorem splitSign_numeral
    (within : Within isNumeralCharacter ((if negative then ['-'] else []) ++ unsigned))
    (beginsWithDigit : ∃ first rest, unsigned = first :: rest ∧ first.isDigit = true) :
    splitSign (trimWhere isWhiteSpace ((if negative then ['-'] else []) ++ unsigned)) =
      (negative, unsigned) := by
  rw [trimWhere_numeral within, splitSign_signed beginsWithDigit]

/-- A signed numeral is read as its unsigned part with the sign. -/
theorem real?_of_unsigned
    {digit? : DigitReader}
    (within : Within isNumeralCharacter ((if negative then ['-'] else []) ++ unsigned))
    (beginsWithDigit : ∃ first rest, unsigned = first :: rest ∧ first.isDigit = true) :
    real? digit? ((if negative then ['-'] else []) ++ unsigned) =
      unsignedReal? digit? negative unsigned := by
  rw [real?, splitSign_numeral within beginsWithDigit]
  obtain ⟨first, rest, rfl, isDigit⟩ := beginsWithDigit
  simp only [namedReal?_of_digit negative isDigit]

end Signed

end Number

/-- The text of a finite number is read as the number. -/
theorem real?_text (number : FiniteBinary64) :
    Number.real? asciiDigit? number.text.toList = some (.finite number) := by
  by_cases isZero : number.significand = 0
  · rw [eq_zero isZero]
    cases number.negative <;> decide +kernel
  · have reads := plainFormat.readsAs_decimalText number.shortest
    have within := number.within_text
    rw [toList_text isZero] at within ⊢
    obtain ⟨decimal, sameValue, read⟩ := reads.read
    rw [real?_of_unsigned within reads.beginsWithDigit, unsignedReal?_eq, read, Option.map_some,
      Option.some.injEq]
    refine Binary64.ofDecimal_eq isZero ?_
    rw [sameValue]
    exact covers_shortest isZero

/-- The text of a finite number reads as a double. -/
theorem showsDouble_text (number : FiniteBinary64) :
    Advisor.showsDouble number.text = true := by
  by_cases isZero : number.significand = 0
  · rw [eq_zero isZero]
    cases number.negative <;> decide +kernel
  · have shown := (plainFormat.readsAs_decimalText number.shortest).showsDouble
    rw [Advisor.showsDouble, toList_text isZero, List.any_append, shown, Bool.or_true]

/-- The literal of a finite number is its text. -/
theorem finiteLiteral_eq_text (number : FiniteBinary64) :
    Advisor.finiteLiteral number = number.text :=
  if_pos (showsDouble_text number)

/-- The literal of a finite number is read as the number. -/
theorem real?_finiteLiteral (number : FiniteBinary64) :
    Number.real? asciiDigit? (Advisor.finiteLiteral number).toList = some (.finite number) := by
  rw [finiteLiteral_eq_text, real?_text]

/-- Different finite numbers have different literals. -/
theorem finiteLiteral_injective : Function.Injective Advisor.finiteLiteral := by
  intro first second same
  have read := real?_finiteLiteral first
  rw [same, real?_finiteLiteral, Option.some.injEq, Binary64.finite.injEq] at read
  exact read.symm

end ExpertAdvisor
