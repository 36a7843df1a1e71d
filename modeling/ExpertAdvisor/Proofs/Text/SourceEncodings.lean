import ExpertAdvisor.Proofs.Text.SavedText

namespace ExpertAdvisor.Text

/-!
# Encodings of one text

Indicator source may be saved in four encodings, and reading tells them apart by
their first bytes.  Each is read as the text that was saved.  Only UTF-8 without
a mark has a condition: a text that begins with the character of the mark would
lose it.
-/

namespace Utf16

/-! Surrogates. -/

theorem isHighSurrogate_iff {unit : Nat} :
    isHighSurrogate unit = true ↔ 0xD800 ≤ unit ∧ unit ≤ 0xDBFF := by
  rw [isHighSurrogate, Bool.and_eq_true, decide_eq_true_eq, decide_eq_true_eq]

theorem isLowSurrogate_iff {unit : Nat} :
    isLowSurrogate unit = true ↔ 0xDC00 ≤ unit ∧ unit ≤ 0xDFFF := by
  rw [isLowSurrogate, Bool.and_eq_true, decide_eq_true_eq, decide_eq_true_eq]

/-- No character is a surrogate. -/
theorem not_surrogate_toNat (character : Char) :
    isHighSurrogate character.toNat = false ∧ isLowSurrogate character.toNat = false := by
  have range := Utf8.toNat_range character
  rw [Bool.eq_false_iff, Bool.eq_false_iff, Ne, Ne, isHighSurrogate_iff, isLowSurrogate_iff]
  omega

/-- The two units of a character past the first plane are a high surrogate and a low one. -/
theorem surrogates_of_split (character : Char) :
    isHighSurrogate (0xD800 + (character.toNat - 0x10000) / 0x400) = true ∧
      isLowSurrogate (0xDC00 + (character.toNat - 0x10000) % 0x400) = true := by
  have range := Utf8.toNat_range character
  rw [isHighSurrogate_iff, isLowSurrogate_iff]
  omega

/-- A code point past the first plane is that of its two units. -/
theorem pairCodePoint_of_split
    {codePoint : Nat}
    (large : 0x10000 ≤ codePoint) :
    pairCodePoint (0xD800 + (codePoint - 0x10000) / 0x400)
      (0xDC00 + (codePoint - 0x10000) % 0x400) = codePoint := by
  unfold pairCodePoint
  omega

/-! Reading the units of one character. -/

/-- A code unit is made of the two bytes that it is taken apart into. -/
theorem exists_bytes_of_unit
    (order : ByteOrder)
    {unit : Nat}
    (small : unit < 0x10000) :
    ∃ first second, order.separate unit = [first, second] ∧ order.combine first second = unit := by
  have high : (UInt8.ofNat (unit / 0x100)).toNat = unit / 0x100 :=
    UInt8.toNat_ofNat_of_lt' (by rw [UInt8.size]; omega)
  have low : (UInt8.ofNat (unit % 0x100)).toNat = unit % 0x100 :=
    UInt8.toNat_ofNat_of_lt' (by rw [UInt8.size]; omega)
  cases order with
  | littleEndian =>
      refine ⟨_, _, rfl, ?_⟩
      rw [ByteOrder.combine, high, low]
      omega
  | bigEndian =>
      refine ⟨_, _, rfl, ?_⟩
      rw [ByteOrder.combine, high, low]
      omega

section Reading

variable {order : ByteOrder} {decoded : List Char} {rest : List UInt8}

/-- A unit that is half of no pair is read as its own character. -/
theorem decodeFrom_single
    {unit : Nat}
    (position : Nat)
    (small : unit < 0x10000)
    (notHigh : isHighSurrogate unit = false)
    (notLow : isLowSurrogate unit = false) :
    decodeFrom order position decoded none (order.separate unit ++ rest) =
      decodeFrom order (position + 2) (Char.ofNat unit :: decoded) none rest := by
  obtain ⟨first, second, separated, combined⟩ := exists_bytes_of_unit order small
  rw [separated, List.cons_append, List.singleton_append, decodeFrom]
  simp only [combined, notHigh, notLow, Bool.false_eq_true, if_false]

/-- The two units of a pair are read as one character. -/
theorem decodeFrom_pair
    {high low : Nat}
    (position : Nat)
    (isHigh : isHighSurrogate high = true)
    (isLow : isLowSurrogate low = true) :
    decodeFrom order position decoded none (order.separate high ++ (order.separate low ++ rest)) =
      decodeFrom order (position + 4) (Char.ofNat (pairCodePoint high low) :: decoded) none
        rest := by
  have highBounds := isHighSurrogate_iff.mp isHigh
  have lowBounds := isLowSurrogate_iff.mp isLow
  obtain ⟨first, second, opening, isOpening⟩ := exists_bytes_of_unit order (show high < _ by omega)
  obtain ⟨third, fourth, closing, isClosing⟩ := exists_bytes_of_unit order (show low < _ by omega)
  rw [opening, closing, List.cons_append, List.singleton_append, List.cons_append,
    List.singleton_append, decodeFrom]
  simp only [isOpening, isHigh, if_true]
  rw [decodeFrom]
  simp only [isClosing, isLow, if_true]

/-- The units of a character are decoded, whatever follows them. -/
theorem decodeFrom_units
    (position : Nat)
    (character : Char) :
    decodeFrom order position decoded none ((units character).flatMap order.separate ++ rest) =
      decodeFrom order (position + 2 * (units character).length) (character :: decoded) none
        rest := by
  have isCharacter : Char.ofNat character.toNat = character := Char.ofNat_toNat character
  rw [units]
  split
  case isTrue small =>
    have ⟨notHigh, notLow⟩ := not_surrogate_toNat character
    rw [List.flatMap_singleton, decodeFrom_single position small notHigh notLow, isCharacter]
    rfl
  case isFalse notSmall =>
    have ⟨isHigh, isLow⟩ := surrogates_of_split character
    rw [List.flatMap_cons, List.flatMap_singleton, List.append_assoc,
      decodeFrom_pair position isHigh isLow, pairCodePoint_of_split (by omega), isCharacter]
    rfl

end Reading

/-- Characters in UTF-16 are decoded one after the other. -/
theorem decodeFrom_encode
    (order : ByteOrder)
    (position : Nat)
    (decoded characters : List Char) :
    decodeFrom order position decoded none (encode order characters) =
      .ok (decoded.reverse ++ characters) := by
  induction characters generalizing position decoded with
  | nil => simp [encode, decodeFrom]
  | cons character rest inductionHypothesis =>
      rw [encode, List.flatMap_cons, decodeFrom_units, ← encode, inductionHypothesis,
        List.reverse_cons, List.append_assoc, List.singleton_append]

/-- Decoding undoes encoding in either order of bytes. -/
theorem decode_encode
    (order : ByteOrder)
    (position : Nat)
    (characters : List Char) :
    decode order position (encode order characters) = .ok characters :=
  decodeFrom_encode order position [] characters

end Utf16

namespace Utf8

/-- What was decoded stays at the front of the text. -/
theorem prefix_of_decodeFrom
    {position : Nat}
    {decoded text : List Char}
    {pending : Option Partial}
    {bytes : List UInt8}
    (read : decodeFrom position decoded pending bytes = .ok text) :
    decoded.reverse <+: text := by
  have shorter (character : Char) (decoded : List Char) :
      decoded.reverse <+: (character :: decoded).reverse := by
    rw [List.reverse_cons]
    exact List.prefix_append _ _
  fun_induction decodeFrom position decoded pending bytes with
  | case1 decoded position => exact Except.ok.inj read ▸ List.prefix_refl _
  | case4 position decoded byte rest bits isLead inductionHypothesis =>
      exact (shorter _ decoded).trans (inductionHypothesis read)
  | case5 position decoded byte rest bits next later isLead inductionHypothesis =>
      exact inductionHypothesis read
  | case6 position decoded byte rest unfinished inRange bits noneLater inductionHypothesis =>
      exact (shorter _ decoded).trans (inductionHypothesis read)
  | case7 position decoded byte rest unfinished inRange bits next later isLater
      inductionHypothesis =>
      exact inductionHypothesis read
  | _ => exact nomatch read

end Utf8

/-- The encodings in which indicator source may be saved. -/
inductive SourceEncoding where
  | plain
  | marked
  | utf16 (order : Utf16.ByteOrder)
  deriving Repr, DecidableEq

namespace SourceEncoding

/-- The bytes as which a text is saved. -/
def save
    (encoding : SourceEncoding)
    (text : List Char) : List UInt8 :=
  match encoding with
  | .plain => Utf8.encode text
  | .marked => utf8Mark ++ Utf8.encode text
  | .utf16 .littleEndian => littleEndianMark ++ Utf16.encode .littleEndian text
  | .utf16 .bigEndian => bigEndianMark ++ Utf16.encode .bigEndian text

end SourceEncoding

/-- The bytes of plain UTF-8 pass for a marked encoding only where the text begins with a mark. -/
theorem decodeSource_encode
    {text : List Char}
    (unmarked : text.head? ≠ some '\uFEFF') :
    decodeSource (Utf8.encode text) = .ok text := by
  have decoded := Utf8.decode_encode text
  generalize Utf8.encode text = bytes at decoded
  rw [decodeSource.eq_def]
  split
  case h_1 units => exact absurd decoded nofun
  case h_2 units => exact absurd decoded nofun
  case h_3 rest =>
    -- The three bytes are those of the mark's own character, which then begins the text.
    have onward : Utf8.decodeFrom 3 ['\uFEFF'] none rest = .ok text := decoded
    obtain ⟨more, rfl⟩ := Utf8.prefix_of_decodeFrom onward
    exact absurd rfl unmarked
  case h_4 => exact decoded

/-- A saved source is read as the text that was saved. -/
theorem decodeSource_save
    {encoding : SourceEncoding}
    {text : List Char}
    (unmarked : encoding = .plain → text.head? ≠ some '\uFEFF') :
    decodeSource (encoding.save text) = .ok text := by
  match encoding with
  | .plain => exact decodeSource_encode (unmarked rfl)
  | .marked => exact Utf8.decode_encode text
  | .utf16 .littleEndian => exact Utf16.decode_encode .littleEndian 2 text
  | .utf16 .bigEndian => exact Utf16.decode_encode .bigEndian 2 text

/--
A text that was saved is decoded, unless a mark at its start would be taken for
that of its encoding.
-/
theorem decodeSourceText_save
    {encoding : SourceEncoding}
    {text : String}
    (unmarked : encoding = .plain → text.toList.head? ≠ some '\uFEFF') :
    decodeSourceText (encoding.save text.toList) = .ok text := by
  rw [decodeSourceText, decodeSource_save unmarked]
  exact congrArg Except.ok String.ofList_toList

end ExpertAdvisor.Text
