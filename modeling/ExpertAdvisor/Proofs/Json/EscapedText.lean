import ExpertAdvisor.Json.Printer
import ExpertAdvisor.Json.Reader
import ExpertAdvisor.Proofs.Text.SourceEncodings

namespace ExpertAdvisor.Json

open Text (CodePoint codePoints)

/-!
# Escaped texts

A character is written as itself or as one or two escapes, and it is read back
from them whatever follows, as long as something does: behind a quoted text the
closing quote always stands.
-/

/-! Code units in hexadecimal. -/

/-- The last digit comes behind those of the sixteenth part. -/
theorem toList_hexText_succ
    (width : Nat)
    {number : Nat} :
    (Number.hexText (width + 2) number).toList =
      (Number.hexText (width + 1) (number / 16)).toList ++ [(number % 16).digitChar] := by
  simp only [Number.hexText, String.toList_ofList]
  by_cases small : number < 16
  · have noSixteens : number / 16 = 0 := Nat.div_eq_of_lt small
    rw [noSixteens, Nat.mod_eq_of_lt small, Nat.toDigits_of_lt_base small,
      Nat.toDigits_of_lt_base (by decide), List.length_singleton, List.length_singleton,
      List.append_cancel_right_eq]
    exact List.replicate_succ'
  · rw [Nat.toDigits_of_base_le (by decide) (Nat.le_of_not_lt small), List.length_append,
      List.length_singleton, Nat.succ_sub_succ, List.append_assoc]

/-- Four digits write a code unit. -/
theorem toList_hexText_four
    {unit : Nat}
    (small : unit < 0x10000) :
    (Number.hexText 4 unit).toList =
      [(unit / 16 / 16 / 16).digitChar, (unit / 16 / 16 % 16).digitChar,
        (unit / 16 % 16).digitChar, (unit % 16).digitChar] := by
  have last : (Number.hexText 1 (unit / 16 / 16 / 16)).toList =
      [(unit / 16 / 16 / 16).digitChar] := by
    rw [Number.hexText, Nat.toDigits_of_lt_base (by omega), String.toList_ofList]
    rfl
  rw [toList_hexText_succ, toList_hexText_succ, toList_hexText_succ, last]
  rfl

theorem hexDigit?_digitChar : ∀ digit < 16, Number.hexDigit? digit.digitChar = some digit := by
  decide

/-- The four digits of a code unit are read as the unit. -/
theorem exists_digits_of_unit
    {unit : Nat}
    (small : unit < 0x10000) :
    ∃ first second third fourth,
      unitEscape unit = ['\\', 'u', first, second, third, fourth] ∧
        codeUnit? (.character first) (.character second) (.character third) (.character fourth) =
          some unit := by
  refine ⟨_, _, _, _, congrArg ("\\u".toList ++ ·) (toList_hexText_four small), ?_⟩
  have value : (((0 * 16 + unit / 16 / 16 / 16) * 16 + unit / 16 / 16 % 16) * 16 +
      unit / 16 % 16) * 16 + unit % 16 = unit := by
    omega
  simp only [codeUnit?, List.mapM_cons, List.mapM_nil, Option.bind_eq_bind, Option.pure_def,
    CodePoint.character?, hexDigit?_digitChar _ (show unit / 16 / 16 / 16 < 16 by omega),
    hexDigit?_digitChar _ (Nat.mod_lt _ (show 16 > 0 by decide)), Option.bind_some]
  exact congrArg some value

/-! Reading what a character is written as. -/

section Reading

variable {opening read rest : List CodePoint} {last : CodePoint}

/-- An escaped code unit that opens no pair is read as its own code point. -/
theorem readText_unitEscape
    {unit : Nat}
    (small : unit < 0x10000)
    (noPair : opensPair unit = false) :
    readText opening read (codePoints (unitEscape unit) ++ last :: rest) =
      readText opening (.ofUnit unit :: read) (last :: rest) := by
  obtain ⟨a, b, c, d, shape, isUnit⟩ := exists_digits_of_unit small
  rw [shape]
  simp only [Text.codePoints_cons, Text.codePoints_nil, List.cons_append, List.nil_append]
  -- The reader looks whether another escape follows before it looks at the unit.
  by_cases escapeFollows :
      ∃ e f g h next more, last :: rest =
        .character '\\' :: .character 'u' :: e :: f :: g :: h :: next :: more
  · obtain ⟨e, f, g, h, next, more, same⟩ := escapeFollows
    rw [same, readText, isUnit]
    simp only [noPair, Bool.false_eq_true, if_false]
  · rw [readText, isUnit]
    intro e f g h next more isBackslash isRest
    exact escapeFollows ⟨e, f, g, h, next, more, by rw [isBackslash, isRest]⟩

/-- Two escaped code units that make a pair are read as its character. -/
theorem readText_pairEscape
    {high low : Nat}
    (isHigh : opensPair high = true)
    (isLow : closesPair low = true) :
    readText opening read
        (codePoints (unitEscape high) ++ (codePoints (unitEscape low) ++ last :: rest)) =
      readText opening (.character (pairCharacter high low) :: read) (last :: rest) := by
  have highBounds := Text.Utf16.isHighSurrogate_iff.mp isHigh
  have lowBounds := Text.Utf16.isLowSurrogate_iff.mp isLow
  obtain ⟨a, b, c, d, highShape, highUnit⟩ := exists_digits_of_unit (show high < _ by omega)
  obtain ⟨e, f, g, h, lowShape, lowUnit⟩ := exists_digits_of_unit (show low < _ by omega)
  rw [highShape, lowShape]
  simp only [Text.codePoints_cons, Text.codePoints_nil, List.cons_append, List.nil_append]
  rw [readText, highUnit, lowUnit]
  simp only [isHigh, isLow, if_true]

/-- A short escape is read as its character. -/
theorem readText_shortEscape
    {escape character : Char}
    (isEscape : shortEscape? escape = some character) :
    readText opening read (.character '\\' :: .character escape :: rest) =
      readText opening (.character character :: read) rest := by
  have notUnit : escape ≠ 'u' := by
    rintro rfl
    exact nomatch isEscape
  have isShort : (CodePoint.character escape).character?.bind shortEscape? = some character :=
    isEscape
  rw [readText, isShort]
  all_goals
    intros
    simp_all

theorem readText_plain
    {character : Char}
    (notQuote : character ≠ '"')
    (notBackslash : character ≠ '\\')
    (printable : 0x20 ≤ character.toNat) :
    readText opening read (.character character :: rest) =
      readText opening (.character character :: read) rest := by
  have notControl : ((CodePoint.character character).character?.any
      fun character => character.toNat < 0x20) = false :=
    decide_eq_false (Nat.not_lt.mpr printable)
  rw [readText, notControl, if_neg Bool.false_ne_true]
  all_goals
    intros
    simp_all

/-- The ways to write a character: an escape of one letter, itself, a code unit, or a pair. -/
inductive WrittenAs (character : Char) : List Char → Prop where
  | letter {escape : Char} :
      shortEscape? escape = some character → WrittenAs character ['\\', escape]
  | itself :
      character ≠ '"' → character ≠ '\\' → 0x20 ≤ character.toNat →
        WrittenAs character [character]
  | unit :
      character.toNat < 0x10000 → WrittenAs character (unitEscape character.toNat)
  | pair :
      0x10000 ≤ character.toNat →
        WrittenAs character
          (unitEscape (0xD800 + (character.toNat - 0x10000) / 0x400) ++
            unitEscape (0xDC00 + (character.toNat - 0x10000) % 0x400))

/-- A character is written so that it is read back. -/
theorem writtenAs_escapeCharacter (character : Char) :
    WrittenAs character (escapeCharacter character) := by
  have letter {special escape : Char} (isSpecial : (character == special) = true)
      (isEscape : shortEscape? escape = some special) : WrittenAs character ['\\', escape] :=
    .letter (eq_of_beq isSpecial ▸ isEscape)
  simp only [escapeCharacter]
  split
  case isTrue isQuote => exact letter isQuote rfl
  split
  case isTrue isBackslash => exact letter isBackslash rfl
  split
  case isTrue isLineFeed => exact letter isLineFeed rfl
  split
  case isTrue isReturn => exact letter isReturn rfl
  split
  case isTrue isTab => exact letter isTab rfl
  split
  case isTrue isBackspace => exact letter isBackspace rfl
  split
  case isTrue isFormFeed => exact letter isFormFeed rfl
  split
  case isTrue notQuote notBackslash _ _ _ _ _ isPlain =>
    rw [Bool.and_eq_true, decide_eq_true_eq, decide_eq_true_eq] at isPlain
    exact .itself (ne_of_beq_false (Bool.eq_false_iff.mpr notQuote))
      (ne_of_beq_false (Bool.eq_false_iff.mpr notBackslash)) isPlain.1
  split
  case isTrue isSmall => exact .unit isSmall
  case isFalse notSmall => exact .pair (by omega)

/-- The pair of a character is read as the character. -/
theorem pairCharacter_of_split
    {character : Char}
    (large : 0x10000 ≤ character.toNat) :
    pairCharacter (0xD800 + (character.toNat - 0x10000) / 0x400)
      (0xDC00 + (character.toNat - 0x10000) % 0x400) = character := by
  have codePoint := congrArg Char.ofNat (Text.Utf16.pairCodePoint_of_split large)
  rw [Char.ofNat_toNat] at codePoint
  exact codePoint

/-- A character that is written as its code unit is no half of a pair. -/
theorem ofUnit_toNat (character : Char) :
    opensPair character.toNat = false ∧
      CodePoint.ofUnit character.toNat = .character character := by
  obtain ⟨notHigh, notLow⟩ :
      opensPair character.toNat = false ∧ closesPair character.toNat = false :=
    Text.Utf16.not_surrogate_toNat character
  refine ⟨notHigh, ?_⟩
  have notHalf : CodePoint.isHalf character.toNat = false := by
    simp only [opensPair, closesPair, CodePoint.isHalf, Bool.and_eq_false_iff,
      decide_eq_false_iff_not] at notHigh notLow ⊢
    omega
  rw [CodePoint.ofUnit, notHalf, if_neg Bool.false_ne_true, Char.ofNat_toNat]

/-- What a character is written as is read as the character. -/
theorem readText_writtenAs
    {character : Char}
    {written : List Char}
    (writes : WrittenAs character written) :
    readText opening read (codePoints written ++ last :: rest) =
      readText opening (.character character :: read) (last :: rest) := by
  cases writes with
  | letter isEscape => exact readText_shortEscape isEscape
  | itself notQuote notBackslash printable =>
      exact readText_plain notQuote notBackslash printable
  | unit small =>
      have ⟨notHigh, alone⟩ := ofUnit_toNat character
      rw [readText_unitEscape small notHigh, alone]
  | pair large =>
      have ⟨isHigh, isLow⟩ := Text.Utf16.surrogates_of_split character
      rw [Text.codePoints_append, List.append_assoc, readText_pairEscape isHigh isLow,
        pairCharacter_of_split large]

/-- An escaped text is read up to its closing quote. -/
theorem readText_escaped
    (opening read : List CodePoint)
    (text rest : List Char) :
    readText opening read (codePoints (text.flatMap escapeCharacter ++ '"' :: rest)) =
      .ok (read.reverse ++ codePoints text, codePoints rest) := by
  induction text generalizing read with
  | nil => rw [List.flatMap_nil, List.nil_append, Text.codePoints_cons, readText,
      Text.codePoints_nil, List.append_nil]
  | cons character more inductionHypothesis =>
      -- A character may follow the four digits of an escape, or the closing quote does.
      obtain ⟨last, ending, shape⟩ : ∃ last ending,
          more.flatMap escapeCharacter ++ '"' :: rest = last :: ending :=
        List.exists_cons_of_ne_nil (by simp)
      rw [shape] at inductionHypothesis
      rw [List.flatMap_cons, List.append_assoc, shape, Text.codePoints_append,
        Text.codePoints_cons, readText_writtenAs (writtenAs_escapeCharacter character),
        ← Text.codePoints_cons, inductionHypothesis, List.reverse_cons, List.append_assoc,
        List.singleton_append, Text.codePoints_cons]

end Reading

/-- A quoted text with a text behind it. -/
theorem toList_quotedText_append
    (text : String)
    (rest : List Char) :
    (quotedText text).toList ++ rest =
      '"' :: (text.toList.flatMap escapeCharacter ++ '"' :: rest) := by
  rw [quotedText, String.toList_ofList, List.cons_append, List.append_assoc, List.singleton_append]

end ExpertAdvisor.Json
