import ExpertAdvisor.Proofs.Text.SourceEncodings

namespace ExpertAdvisor.Text

/-!
# Bytes that are decoded

Decoding accepts nothing but encodings.  Bytes that are read as a text fall into
the encodings of its characters, since a decoder that goes on behind a character
has read exactly the bytes as which the character is written.  What encodes no
text, such as an overlong form, half of a pair or a character cut short, is
refused.
-/

/-- A number that may be a code point is the code point of its character. -/
theorem toNat_ofNat_of_range
    {codePoint : Nat}
    (range : codePoint < 0xD800 ∨ 0xDFFF < codePoint ∧ codePoint < 0x110000) :
    (Char.ofNat codePoint).toNat = codePoint := by
  rw [Char.ofNat, dif_pos range]
  rfl

/--
A decoder that accepts bytes only if they begin with what is written for some
character, which it decodes before it goes on with the bytes behind it.
-/
structure TakesCharacters
    (written : Char → List UInt8)
    (decodeFrom : Nat → List Char → List UInt8 → Except DecodingFault (List Char)) : Prop where
  written_ne_nil : ∀ character, written character ≠ []
  ends :
    ∀ {position decoded text}, decodeFrom position decoded [] = .ok text → text = decoded.reverse
  goesOn :
    ∀ {position decoded byte bytes text}, decodeFrom position decoded (byte :: bytes) = .ok text →
      ∃ character rest onward, byte :: bytes = written character ++ rest ∧
        decodeFrom onward (character :: decoded) rest = .ok text

/-- What such a decoder reads is what is written for the characters that it adds. -/
theorem TakesCharacters.exists_characters
    {written : Char → List UInt8}
    {decodeFrom : Nat → List Char → List UInt8 → Except DecodingFault (List Char)}
    (takes : TakesCharacters written decodeFrom)
    {position : Nat}
    {decoded text : List Char}
    {bytes : List UInt8}
    (read : decodeFrom position decoded bytes = .ok text) :
    ∃ characters, text = decoded.reverse ++ characters ∧ bytes = characters.flatMap written := by
  induction sized : bytes.length using Nat.strongRecOn generalizing position decoded bytes with
  | ind size inductionHypothesis =>
      cases bytes with
      | nil => exact ⟨[], by rw [List.append_nil, takes.ends read], rfl⟩
      | cons byte more =>
          obtain ⟨character, rest, onward, shape, readOn⟩ := takes.goesOn read
          have someBytes := List.length_pos_iff.mpr (takes.written_ne_nil character)
          have shorter : rest.length < size := by
            rw [← sized, shape, List.length_append]
            omega
          obtain ⟨characters, rfl, rfl⟩ := inductionHypothesis _ shorter readOn rfl
          exact ⟨character :: characters, by simp, by rw [shape, List.flatMap_cons]⟩

namespace Utf8

/-- A character is encoded as it stands in the bytes of a string. -/
theorem encodeCharacter_eq_utf8EncodeChar (character : Char) :
    encodeCharacter character = String.utf8EncodeChar character := by
  have range := toNat_range character
  have codePoint : character.val.toNat = character.toNat := rfl
  simp only [encodeCharacter, trailingByte, String.utf8EncodeChar, codePoint]
  generalize character.toNat = codePoint at range
  -- Both go by the size of the code point, and a lead byte has room for the bits that it gets.
  repeat' split
  all_goals first
    | omega
    | simp only [List.cons.injEq, and_true]
  all_goals
    repeat' apply And.intro
  all_goals exact congrArg UInt8.ofNat (by omega)

/-! What the bytes of a character say about it. -/

/-- Bytes that are neither ASCII nor in the range of lead bytes begin no character. -/
theorem lead?_eq_none_or :
    ∀ value < 0x100,
      lead? (UInt8.ofNat value) = none ∨ value < 0x80 ∨ 0xC2 ≤ value ∧ value < 0xF5 := by
  decide +kernel

/-- A lead byte says which bytes follow, and holds the leading bits of the code point. -/
theorem lead?_cases
    {byte : UInt8}
    {bits : Nat}
    {ranges : List (Nat × Nat)}
    (isLead : lead? byte = some (bits, ranges)) :
    (ranges = [] ∧ bits < 0x80 ∧ byte = UInt8.ofNat bits) ∨
      (ranges = [anyTrailing] ∧ 2 ≤ bits ∧ bits < 0x20 ∧ byte = UInt8.ofNat (0xC0 + bits)) ∨
      (ranges = [secondOfThree bits, anyTrailing] ∧ bits < 0x10 ∧
        byte = UInt8.ofNat (0xE0 + bits)) ∨
      (ranges = [secondOfFour bits, anyTrailing, anyTrailing] ∧ bits < 5 ∧
        byte = UInt8.ofNat (0xF0 + bits)) := by
  obtain ⟨value, small, rfl⟩ : ∃ value < 0x100, byte = UInt8.ofNat value :=
    ⟨byte.toNat, byte.toNat_lt, UInt8.ofNat_toNat.symm⟩
  -- What is announced, for a byte whose announcement is known.
  have announced
      {known : Nat}
      {knownRanges : List (Nat × Nat)}
      (isKnown : lead? (UInt8.ofNat value) = some (known, knownRanges)) :
      known = bits ∧ knownRanges = ranges := by
    rw [isKnown, Option.some.injEq, Prod.mk.injEq] at isLead
    exact isLead
  rcases lead?_eq_none_or value small with nothing | ascii | inRange
  · rw [nothing] at isLead
    cases isLead
  · obtain ⟨rfl, rfl⟩ := announced (lead?_one ascii)
    exact .inl ⟨rfl, ascii, rfl⟩
  · by_cases two : value < 0xE0
    · obtain ⟨high, rfl⟩ := Nat.exists_eq_add_of_le (show 0xC0 ≤ value by omega)
      obtain ⟨rfl, rfl⟩ :=
        announced ((lead?_two high (by omega)).resolve_left (by omega))
      exact .inr (.inl ⟨rfl, by omega, by omega, rfl⟩)
    · by_cases three : value < 0xF0
      · obtain ⟨high, rfl⟩ := Nat.exists_eq_add_of_le (show 0xE0 ≤ value by omega)
        obtain ⟨rfl, rfl⟩ := announced (lead?_three high (by omega))
        exact .inr (.inr (.inl ⟨rfl, by omega, rfl⟩))
      · obtain ⟨high, rfl⟩ := Nat.exists_eq_add_of_le (show 0xF0 ≤ value by omega)
        obtain ⟨rfl, rfl⟩ := announced (lead?_four high (by omega))
        exact .inr (.inr (.inr ⟨rfl, by omega, rfl⟩))

section Writing

variable {high middle low : Nat}

/-! The bytes as which a character is written, from the bits that they hold. -/

/-- The bits above the lowest six do not show in a trailing byte. -/
theorem trailingByte_of_bits (bits low : Nat) :
    trailingByte (bits * 0x40 + low) = trailingByte low := by
  have sameBits : (bits * 0x40 + low) % 0x40 = low % 0x40 := by omega
  rw [trailingByte, sameBits, trailingByte]

/-- A code point of seven bits is encoded in one byte. -/
theorem encodeCharacter_one
    (small : low < 0x80) :
    encodeCharacter (Char.ofNat low) = [UInt8.ofNat low] := by
  simp only [encodeCharacter, @toNat_ofNat_of_range low (by omega), if_pos small]

theorem encodeCharacter_two
    (leading : 2 ≤ high)
    (highSmall : high < 0x20)
    (lowSmall : low < 0x40) :
    encodeCharacter (Char.ofNat (high * 0x40 + low)) =
      [UInt8.ofNat (0xC0 + high), trailingByte low] := by
  have range := @toNat_ofNat_of_range (high * 0x40 + low) (by omega)
  have leadBits : (high * 0x40 + low) / 0x40 = high := by omega
  simp only [encodeCharacter, range]
  rw [if_neg (by omega), if_pos (by omega), leadBits, trailingByte_of_bits]

theorem encodeCharacter_three
    (highSmall : high < 0x10)
    (middleSmall : middle < 0x40)
    (allowed : Allows (secondOfThree high) middle)
    (lowSmall : low < 0x40) :
    encodeCharacter (Char.ofNat ((high * 0x40 + middle) * 0x40 + low)) =
      [UInt8.ofNat (0xE0 + high), trailingByte middle, trailingByte low] := by
  -- The second byte rules out overlong forms and surrogates.
  have bounds : 0x800 ≤ (high * 0x40 + middle) * 0x40 + low ∧
      ((high * 0x40 + middle) * 0x40 + low < 0xD800 ∨
        0xDFFF < (high * 0x40 + middle) * 0x40 + low) := by
    rw [Allows, secondOfThree] at allowed
    split at allowed
    · omega
    · split at allowed <;> simp only [anyTrailing] at allowed <;> omega
  have range := @toNat_ofNat_of_range ((high * 0x40 + middle) * 0x40 + low) (by omega)
  have leadBits : ((high * 0x40 + middle) * 0x40 + low) / 0x1000 = high := by omega
  have middleBits : ((high * 0x40 + middle) * 0x40 + low) / 0x40 = high * 0x40 + middle := by omega
  simp only [encodeCharacter, range]
  rw [if_neg (by omega), if_neg (by omega), if_pos (by omega), leadBits, middleBits,
    trailingByte_of_bits, trailingByte_of_bits]

/-- A code point of more bits is encoded in four bytes. -/
theorem encodeCharacter_four
    {next : Nat}
    (highSmall : high < 5)
    (nextSmall : next < 0x40)
    (allowed : Allows (secondOfFour high) next)
    (middleSmall : middle < 0x40)
    (lowSmall : low < 0x40) :
    encodeCharacter (Char.ofNat (((high * 0x40 + next) * 0x40 + middle) * 0x40 + low)) =
      [UInt8.ofNat (0xF0 + high), trailingByte next, trailingByte middle, trailingByte low] := by
  -- The second byte rules out overlong forms and code points past the last one.
  have bounds : 0x10000 ≤ ((high * 0x40 + next) * 0x40 + middle) * 0x40 + low ∧
      ((high * 0x40 + next) * 0x40 + middle) * 0x40 + low < 0x110000 := by
    rw [Allows, secondOfFour] at allowed
    split at allowed
    · omega
    · split at allowed <;> simp only [anyTrailing] at allowed <;> omega
  have range := @toNat_ofNat_of_range
    (((high * 0x40 + next) * 0x40 + middle) * 0x40 + low) (by omega)
  have leadBits :
      (((high * 0x40 + next) * 0x40 + middle) * 0x40 + low) / 0x40000 = high := by omega
  have nextBits : (((high * 0x40 + next) * 0x40 + middle) * 0x40 + low) / 0x1000 =
      high * 0x40 + next := by omega
  have middleBits : (((high * 0x40 + next) * 0x40 + middle) * 0x40 + low) / 0x40 =
      (high * 0x40 + next) * 0x40 + middle := by omega
  simp only [encodeCharacter, range]
  rw [if_neg (by omega), if_neg (by omega), if_neg (by omega), leadBits, nextBits, middleBits,
    trailingByte_of_bits, trailingByte_of_bits, trailingByte_of_bits]

end Writing

/-! Reading on from between two characters. -/

section Reading

variable {position : Nat} {decoded text : List Char} {bytes : List UInt8}

/-- A range of trailing bytes, perhaps narrower than that of all of them. -/
def IsTrailing (range : Nat × Nat) : Prop :=
  0x80 ≤ range.1 ∧ range.2 ≤ 0xBF

/-- Whether a range of bytes only follows others can be decided. -/
instance (range : Nat × Nat) : Decidable (IsTrailing range) :=
  inferInstanceAs (Decidable (_ ∧ _))

theorem isTrailing_secondOfThree (high : Nat) : IsTrailing (secondOfThree high) := by
  unfold secondOfThree
  repeat' split
  all_goals decide

theorem isTrailing_secondOfFour (high : Nat) : IsTrailing (secondOfFour high) := by
  unfold secondOfFour
  repeat' split
  all_goals decide

/-- A byte that is owed is there, and it is a trailing byte in its range. -/
theorem exists_trailing_of_decodeFrom
    {start bits : Nat}
    {seen : List UInt8}
    {next : Nat × Nat}
    {later : List (Nat × Nat)}
    (trailing : IsTrailing next)
    (read : decodeFrom position decoded (some ⟨start, seen, bits, next, later⟩) bytes =
      .ok text) :
    ∃ low < 0x40, ∃ rest, bytes = trailingByte low :: rest ∧ Allows next low ∧
      match later with
      | [] => decodeFrom (position + 1) (Char.ofNat (bits * 0x40 + low) :: decoded) none rest =
          .ok text
      | following :: others =>
          decodeFrom (position + 1) decoded
            (some ⟨start, seen ++ [trailingByte low], bits * 0x40 + low, following, others⟩) rest =
          .ok text := by
  cases bytes with
  | nil => cases read
  | cons byte rest =>
      by_cases inRange : next.1 ≤ byte.toNat ∧ byte.toNat ≤ next.2
      · have isTrailing : byte = trailingByte (byte.toNat % 0x40) := by
          apply UInt8.toNat_inj.mp
          rw [toNat_trailingByte]
          have bounds := trailing
          rw [IsTrailing] at bounds
          omega
        have allowed : Allows next (byte.toNat % 0x40) := by
          rw [Allows, ← toNat_trailingByte, ← isTrailing]
          exact inRange
        have ownBits : byte.toNat % 0x40 % 0x40 = byte.toNat % 0x40 := Nat.mod_mod _ _
        rw [isTrailing, decodeFrom_trailingByte allowed, ownBits] at read
        refine ⟨byte.toNat % 0x40, Nat.mod_lt _ (by decide), rest, by rw [← isTrailing],
          allowed, ?_⟩
        cases later <;> exact read
      · have outside : (decide (next.1 ≤ byte.toNat) && decide (byte.toNat ≤ next.2)) = false := by
          simpa using inRange
        rw [decodeFrom] at read
        simp only [outside] at read
        cases read

/-- Bytes that are read on begin with the encoding of the character that is read first. -/
theorem exists_character_of_decodeFrom
    {byte : UInt8}
    (read : decodeFrom position decoded none (byte :: bytes) = .ok text) :
    ∃ character rest onward, byte :: bytes = encodeCharacter character ++ rest ∧
      decodeFrom onward (character :: decoded) none rest = .ok text := by
  rw [decodeFrom] at read
  cases isLead : lead? byte with
  | none =>
      simp only [isLead] at read
      cases read
  | some announced =>
      obtain ⟨bits, ranges⟩ := announced
      simp only [isLead] at read
      rcases lead?_cases isLead with ⟨rfl, small, rfl⟩ | ⟨rfl, leading, small, rfl⟩ |
        ⟨rfl, small, rfl⟩ | ⟨rfl, small, rfl⟩
      · refine ⟨Char.ofNat bits, bytes, position + 1, ?_, read⟩
        rw [encodeCharacter_one small]
        rfl
      · obtain ⟨low, lowSmall, rest, rfl, _, read⟩ :=
          exists_trailing_of_decodeFrom (by decide) read
        refine ⟨_, rest, _, ?_, read⟩
        rw [encodeCharacter_two leading small lowSmall]
        rfl
      · obtain ⟨middle, middleSmall, rest, rfl, allowed, read⟩ :=
          exists_trailing_of_decodeFrom (isTrailing_secondOfThree bits) read
        obtain ⟨low, lowSmall, rest, rfl, _, read⟩ :=
          exists_trailing_of_decodeFrom (by decide) read
        refine ⟨_, rest, _, ?_, read⟩
        rw [encodeCharacter_three small middleSmall allowed lowSmall]
        rfl
      · obtain ⟨next, nextSmall, rest, rfl, allowed, read⟩ :=
          exists_trailing_of_decodeFrom (isTrailing_secondOfFour bits) read
        obtain ⟨middle, middleSmall, rest, rfl, _, read⟩ :=
          exists_trailing_of_decodeFrom (by decide) read
        obtain ⟨low, lowSmall, rest, rfl, _, read⟩ :=
          exists_trailing_of_decodeFrom (by decide) read
        refine ⟨_, rest, _, ?_, read⟩
        rw [encodeCharacter_four small nextSmall allowed middleSmall lowSmall]
        rfl

end Reading

/-- Every character takes at least one byte. -/
theorem encodeCharacter_ne_nil (character : Char) : encodeCharacter character ≠ [] := by
  unfold encodeCharacter
  dsimp only
  repeat' split
  all_goals exact List.cons_ne_nil _ _

/-- UTF-8 is read character by character. -/
theorem takesCharacters :
    TakesCharacters encodeCharacter fun position decoded => decodeFrom position decoded none where
  written_ne_nil := encodeCharacter_ne_nil
  ends read := (Except.ok.inj read).symm
  goesOn := exists_character_of_decodeFrom

/-- Decoding accepts nothing but encodings. -/
theorem decode_eq_ok_iff
    {bytes : List UInt8}
    {text : List Char} :
    decode bytes = .ok text ↔ bytes = encode text := by
  constructor
  · intro read
    obtain ⟨characters, rfl, rfl⟩ := takesCharacters.exists_characters read
    rfl
  · rintro rfl
    exact decode_encode text

end Utf8

namespace Utf16

/-! What two bytes or two units say about a character. -/

/-- Two bytes are those of the unit that they make. -/
theorem separate_combine
    (order : ByteOrder)
    (first second : UInt8) :
    order.separate (order.combine first second) = [first, second] := by
  have firstSmall := first.toNat_lt
  have secondSmall := second.toNat_lt
  cases order with
  | littleEndian =>
      have low : (first.toNat + second.toNat * 0x100) % 0x100 = first.toNat := by omega
      have high : (first.toNat + second.toNat * 0x100) / 0x100 = second.toNat := by omega
      rw [ByteOrder.combine, ByteOrder.separate, low, high, UInt8.ofNat_toNat, UInt8.ofNat_toNat]
  | bigEndian =>
      have low : (first.toNat * 0x100 + second.toNat) % 0x100 = second.toNat := by omega
      have high : (first.toNat * 0x100 + second.toNat) / 0x100 = first.toNat := by omega
      rw [ByteOrder.combine, ByteOrder.separate, low, high, UInt8.ofNat_toNat, UInt8.ofNat_toNat]

theorem combine_lt
    (order : ByteOrder)
    (first second : UInt8) :
    order.combine first second < 0x10000 := by
  have firstSmall := first.toNat_lt
  have secondSmall := second.toNat_lt
  cases order <;> rw [ByteOrder.combine] <;> omega

/-- A unit that is no surrogate is that of its own character. -/
theorem units_single
    {unit : Nat}
    (small : unit < 0x10000)
    (notHigh : isHighSurrogate unit = false)
    (notLow : isLowSurrogate unit = false) :
    units (Char.ofNat unit) = [unit] := by
  rw [Bool.eq_false_iff, Ne, isHighSurrogate_iff] at notHigh
  rw [Bool.eq_false_iff, Ne, isLowSurrogate_iff] at notLow
  simp only [units, @toNat_ofNat_of_range unit (by omega), if_pos small]

/-- A pair of surrogates are the units of its character. -/
theorem units_pair
    {high low : Nat}
    (isHigh : isHighSurrogate high = true)
    (isLow : isLowSurrogate low = true) :
    units (Char.ofNat (pairCodePoint high low)) = [high, low] := by
  rw [isHighSurrogate_iff] at isHigh
  rw [isLowSurrogate_iff] at isLow
  have codePoint : pairCodePoint high low =
      0x10000 + (high - 0xD800) * 0x400 + (low - 0xDC00) := rfl
  have range := @toNat_ofNat_of_range (pairCodePoint high low) (by omega)
  have leading : 0xD800 + (pairCodePoint high low - 0x10000) / 0x400 = high := by omega
  have trailing : 0xDC00 + (pairCodePoint high low - 0x10000) % 0x400 = low := by omega
  simp only [units, range]
  rw [if_neg (by omega), leading, trailing]

section Reading

variable {order : ByteOrder} {position : Nat} {decoded text : List Char} {bytes : List UInt8}

/-- Bytes that are read on begin with the units of the character that is read first. -/
theorem exists_character_of_decodeFrom
    {byte : UInt8}
    (read : decodeFrom order position decoded none (byte :: bytes) = .ok text) :
    ∃ character rest onward,
      byte :: bytes = (units character).flatMap order.separate ++ rest ∧
        decodeFrom order onward (character :: decoded) none rest = .ok text := by
  cases bytes with
  | nil => cases read
  | cons second rest =>
      have bytesOfUnit := separate_combine order byte second
      rw [decodeFrom] at read
      cases isHigh : isHighSurrogate (order.combine byte second) with
      | false =>
          cases isLow : isLowSurrogate (order.combine byte second) with
          | false =>
              simp only [isHigh, isLow, Bool.false_eq_true, if_false] at read
              refine ⟨_, rest, _, ?_, read⟩
              rw [units_single (combine_lt order byte second) isHigh isLow,
                List.flatMap_singleton, bytesOfUnit]
              rfl
          | true =>
              simp only [isHigh, isLow, Bool.false_eq_true, if_false, if_true] at read
              cases read
      | true =>
          simp only [isHigh, if_true] at read
          cases rest with
          | nil => cases read
          | cons third rest =>
              cases rest with
              | nil => cases read
              | cons fourth rest =>
                  rw [decodeFrom] at read
                  cases isLow : isLowSurrogate (order.combine third fourth) with
                  | false =>
                      simp only [isLow, Bool.false_eq_true, if_false] at read
                      cases read
                  | true =>
                      simp only [isLow, if_true] at read
                      refine ⟨_, rest, _, ?_, read⟩
                      rw [units_pair isHigh isLow, List.flatMap_cons, List.flatMap_singleton,
                        bytesOfUnit, separate_combine]
                      rfl

end Reading

theorem units_ne_nil
    (order : ByteOrder)
    (character : Char) :
    (units character).flatMap order.separate ≠ [] := by
  unfold units
  dsimp only
  split <;> cases order <;> exact List.cons_ne_nil _ _

/-- UTF-16 is read character by character. -/
theorem takesCharacters (order : ByteOrder) :
    TakesCharacters (fun character => (units character).flatMap order.separate)
      fun position decoded => decodeFrom order position decoded none where
  written_ne_nil := units_ne_nil order
  ends read := (Except.ok.inj read).symm
  goesOn := exists_character_of_decodeFrom

/-- Decoding accepts nothing but encodings. -/
theorem decode_eq_ok_iff
    {order : ByteOrder}
    {position : Nat}
    {bytes : List UInt8}
    {text : List Char} :
    decode order position bytes = .ok text ↔ bytes = encode order text := by
  constructor
  · intro read
    obtain ⟨characters, rfl, rfl⟩ := (takesCharacters order).exists_characters read
    rfl
  · rintro rfl
    exact decode_encode order position text

end Utf16

/-- A text is encoded as the bytes that its string consists of. -/
theorem encodeText_eq_toUTF8 (text : String) : encodeText text = text.toUTF8.data.toList := by
  have written : Utf8.encodeCharacter = String.utf8EncodeChar :=
    funext Utf8.encodeCharacter_eq_utf8EncodeChar
  have bytes : text.toByteArray = (text.toList.flatMap String.utf8EncodeChar).toByteArray := by
    rw [← String.ofList_toList (s := text), String.toByteArray_ofList, String.toList_ofList]
    rfl
  rw [encodeText, Utf8.encode, written, String.toUTF8_eq_toByteArray, bytes]
  simp

/-! Indicator source. -/

/--
An encoding in which a text may be saved and read back: plain UTF-8 must not
begin with a mark.
-/
def SourceEncoding.Suits
    (encoding : SourceEncoding)
    (text : List Char) : Prop :=
  encoding = .plain → text.head? ≠ some '\uFEFF'

theorem encodeCharacter_mark : Utf8.encodeCharacter '\uFEFF' = utf8Mark := by
  decide

/-- Source is read only from bytes as which the text is saved in a suitable encoding. -/
theorem exists_encoding_of_decodeSource
    {bytes : List UInt8}
    {text : List Char}
    (read : decodeSource bytes = .ok text) :
    ∃ encoding : SourceEncoding, encoding.Suits text ∧ bytes = encoding.save text := by
  rw [decodeSource.eq_def] at read
  split at read
  case h_1 units =>
    obtain rfl := Utf16.decode_eq_ok_iff.mp read
    refine ⟨.utf16 .littleEndian, fun isPlain => ?_, rfl⟩
    cases isPlain
  case h_2 units =>
    obtain rfl := Utf16.decode_eq_ok_iff.mp read
    refine ⟨.utf16 .bigEndian, fun isPlain => ?_, rfl⟩
    cases isPlain
  case h_3 rest =>
    obtain rfl := Utf8.decode_eq_ok_iff.mp read
    refine ⟨.marked, fun isPlain => ?_, rfl⟩
    cases isPlain
  case h_4 _ _ unmarked =>
    obtain rfl := Utf8.decode_eq_ok_iff.mp read
    refine ⟨.plain, fun _ headed => ?_, rfl⟩
    -- The bytes of a mark at the start would have been dropped.
    obtain ⟨rest, rfl⟩ := List.head?_eq_some_iff.mp headed
    refine unmarked (Utf8.encode rest) ?_
    rw [Utf8.encode, List.flatMap_cons, encodeCharacter_mark]
    rfl

/-- A source is decoded exactly as a text that was saved in a suitable encoding. -/
theorem decodeSourceText_eq_ok_iff
    {bytes : List UInt8}
    {text : String} :
    decodeSourceText bytes = .ok text ↔
      ∃ encoding : SourceEncoding, encoding.Suits text.toList ∧
        bytes = encoding.save text.toList := by
  constructor
  · intro read
    cases decoded : decodeSource bytes with
    | error fault =>
        rw [decodeSourceText, decoded] at read
        cases read
    | ok characters =>
        rw [decodeSourceText, decoded] at read
        obtain rfl := Except.ok.inj read
        rw [String.toList_ofList]
        exact exists_encoding_of_decodeSource decoded
  · rintro ⟨encoding, suits, rfl⟩
    exact decodeSourceText_save suits

/--
Source is read exactly from the bytes as which a text is saved, and it is read as
that text.  All other bytes are refused.
-/
theorem decodeSourceText_undoes_save (bytes : List UInt8) :
    (∀ text, decodeSourceText bytes = .ok text ↔
      ∃ encoding : SourceEncoding, encoding.Suits text.toList ∧
        bytes = encoding.save text.toList) ∧
    ((∃ fault, decodeSourceText bytes = .error fault) ↔
      ∀ (encoding : SourceEncoding) (text : String), encoding.Suits text.toList →
        bytes ≠ encoding.save text.toList) := by
  refine ⟨fun text => decodeSourceText_eq_ok_iff, ?_⟩
  constructor
  · rintro ⟨fault, refused⟩ encoding text suits saved
    rw [decodeSourceText_eq_ok_iff.mpr ⟨encoding, suits, saved⟩] at refused
    cases refused
  · intro noText
    cases read : decodeSourceText bytes with
    | error fault => exact ⟨fault, rfl⟩
    | ok text =>
        obtain ⟨encoding, suits, saved⟩ := decodeSourceText_eq_ok_iff.mp read
        exact absurd saved (noText encoding text suits)

/-- An encoded surrogate is no text. -/
example : decodeSource [0xED, 0xA0, 0x80] =
    .error ⟨.utf8, 0, [0xED], .invalidContinuation⟩ := by
  rfl

end ExpertAdvisor.Text
