import ExpertAdvisor.Text.Lines
import ExpertAdvisor.Text.SourceEncoding

namespace ExpertAdvisor.Text

/-!
# Saved text

The bytes that a character is encoded as are decoded to that character again,
whatever stands behind them.  So a text that was saved is read back as it was,
but for its line ends, which stay where they are line feeds only.
-/

namespace Utf8

theorem toNat_trailingByte (bits : Nat) : (trailingByte bits).toNat = 0x80 + bits % 0x40 :=
  UInt8.toNat_ofNat_of_lt' (by rw [UInt8.size]; omega)

/-- The numbers that the code points of characters are. -/
theorem toNat_range (character : Char) :
    character.toNat < 0xD800 ∨ 0xDFFF < character.toNat ∧ character.toNat < 0x110000 :=
  character.valid

/-! What lead bytes announce. -/

/-- A byte below the highest bit leads to itself. -/
theorem lead?_one
    {codePoint : Nat}
    (small : codePoint < 0x80) :
    lead? (UInt8.ofNat codePoint) = some (codePoint, []) := by
  have value : (UInt8.ofNat codePoint).toNat = codePoint :=
    UInt8.toNat_ofNat_of_lt' (by rw [UInt8.size]; omega)
  rw [lead?, value]
  exact if_pos small

theorem lead?_two :
    ∀ high < 0x20,
      high < 2 ∨ lead? (UInt8.ofNat (0xC0 + high)) = some (high, [anyTrailing]) := by
  decide

/-- The range of the byte after the first of three. -/
def secondOfThree (high : Nat) : Nat × Nat :=
  if high = 0 then (0xA0, 0xBF) else if high = 0x0D then (0x80, 0x9F) else anyTrailing

theorem lead?_three :
    ∀ high < 0x10,
      lead? (UInt8.ofNat (0xE0 + high)) = some (high, [secondOfThree high, anyTrailing]) := by
  decide

/-- The range of the byte after the first of four. -/
def secondOfFour (high : Nat) : Nat × Nat :=
  if high = 0 then (0x90, 0xBF) else if high = 4 then (0x80, 0x8F) else anyTrailing

/-- A lead byte of four asks for three trailing bytes. -/
theorem lead?_four :
    ∀ high < 5,
      lead? (UInt8.ofNat (0xF0 + high)) =
        some (high, [secondOfFour high, anyTrailing, anyTrailing]) := by
  decide

/-! Reading the bytes of one character. -/

/-- A range lets a number below 64 be the next trailing byte. -/
def Allows
    (range : Nat × Nat)
    (low : Nat) : Prop :=
  range.1 ≤ 0x80 + low % 0x40 ∧ 0x80 + low % 0x40 ≤ range.2

theorem allows_anyTrailing (low : Nat) : Allows anyTrailing low := by
  simp only [Allows, anyTrailing]
  omega

section Reading

variable {rest : List UInt8} {decoded : List Char} {codePoint : Nat}

/-- A trailing byte that is allowed adds its bits. -/
theorem decodeFrom_trailingByte
    {position start bits low : Nat}
    {read : List UInt8}
    {next : Nat × Nat}
    (allowed : Allows next low)
    (later : List (Nat × Nat)) :
    decodeFrom position decoded (some ⟨start, read, bits, next, later⟩) (trailingByte low :: rest) =
      match later with
      | [] =>
          decodeFrom (position + 1) (Char.ofNat (bits * 0x40 + low % 0x40) :: decoded) none rest
      | following :: others =>
          decodeFrom (position + 1) decoded
            (some ⟨start, read ++ [trailingByte low], bits * 0x40 + low % 0x40, following, others⟩)
            rest := by
  have inRange : (decide (next.1 ≤ (trailingByte low).toNat) &&
      decide ((trailingByte low).toNat ≤ next.2)) = true := by
    rw [toNat_trailingByte]
    simpa using And.intro allowed.1 allowed.2
  have ownBits : (trailingByte low).toNat % 0x40 = low % 0x40 := by
    rw [toNat_trailingByte]
    omega
  cases later <;> simp only [decodeFrom, inRange, if_true, ownBits]

theorem decodeFrom_two
    (position : Nat)
    (atLeast : 0x80 ≤ codePoint)
    (below : codePoint < 0x800) :
    decodeFrom position decoded none
        (UInt8.ofNat (0xC0 + codePoint / 0x40) :: trailingByte codePoint :: rest) =
      decodeFrom (position + 2) (Char.ofNat codePoint :: decoded) none rest := by
  have sum : codePoint / 0x40 * 0x40 + codePoint % 0x40 = codePoint := by omega
  rw [decodeFrom, (lead?_two _ (by omega)).resolve_left (by omega)]
  simp only
  rw [decodeFrom_trailingByte (allows_anyTrailing codePoint), sum]

theorem decodeFrom_three
    (position : Nat)
    (atLeast : 0x800 ≤ codePoint)
    (below : codePoint < 0x10000)
    (notSurrogate : codePoint < 0xD800 ∨ 0xDFFF < codePoint) :
    decodeFrom position decoded none
        (UInt8.ofNat (0xE0 + codePoint / 0x1000) :: trailingByte (codePoint / 0x40) ::
          trailingByte codePoint :: rest) =
      decodeFrom (position + 3) (Char.ofNat codePoint :: decoded) none rest := by
  have allowed : Allows (secondOfThree (codePoint / 0x1000)) (codePoint / 0x40) := by
    rw [secondOfThree]
    split
    case isTrue => simp only [Allows]; omega
    case isFalse =>
      split
      case isTrue => simp only [Allows]; omega
      case isFalse => exact allows_anyTrailing _
  have sum : (codePoint / 0x1000 * 0x40 + codePoint / 0x40 % 0x40) * 0x40 + codePoint % 0x40 =
      codePoint := by
    omega
  rw [decodeFrom, lead?_three _ (by omega)]
  simp only
  rw [decodeFrom_trailingByte allowed]
  simp only
  rw [decodeFrom_trailingByte (allows_anyTrailing codePoint), sum]

/-- A code point in four bytes is decoded. -/
theorem decodeFrom_four
    (position : Nat)
    (atLeast : 0x10000 ≤ codePoint)
    (below : codePoint < 0x110000) :
    decodeFrom position decoded none
        (UInt8.ofNat (0xF0 + codePoint / 0x40000) :: trailingByte (codePoint / 0x1000) ::
          trailingByte (codePoint / 0x40) :: trailingByte codePoint :: rest) =
      decodeFrom (position + 4) (Char.ofNat codePoint :: decoded) none rest := by
  have allowed : Allows (secondOfFour (codePoint / 0x40000)) (codePoint / 0x1000) := by
    rw [secondOfFour]
    split
    case isTrue => simp only [Allows]; omega
    case isFalse =>
      split
      case isTrue => simp only [Allows]; omega
      case isFalse => exact allows_anyTrailing _
  have sum : ((codePoint / 0x40000 * 0x40 + codePoint / 0x1000 % 0x40) * 0x40 +
      codePoint / 0x40 % 0x40) * 0x40 + codePoint % 0x40 = codePoint := by
    omega
  rw [decodeFrom, lead?_four _ (by omega)]
  simp only
  rw [decodeFrom_trailingByte allowed]
  simp only
  rw [decodeFrom_trailingByte (allows_anyTrailing (codePoint / 0x40))]
  simp only
  rw [decodeFrom_trailingByte (allows_anyTrailing codePoint), sum]

end Reading

/-- An encoded character is decoded, whatever follows it. -/
theorem decodeFrom_encodeCharacter
    (position : Nat)
    (decoded : List Char)
    (character : Char)
    (rest : List UInt8) :
    decodeFrom position decoded none (encodeCharacter character ++ rest) =
      decodeFrom (position + (encodeCharacter character).length) (character :: decoded) none
        rest := by
  have range := toNat_range character
  have isCharacter : Char.ofNat character.toNat = character := Char.ofNat_toNat character
  rw [encodeCharacter]
  generalize character.toNat = codePoint at range isCharacter
  subst isCharacter
  split
  case isTrue small =>
    rw [List.singleton_append, decodeFrom, lead?_one small]
    rfl
  split
  case isTrue small two => exact decodeFrom_two position (by omega) two
  split
  case isTrue small notTwo three => exact decodeFrom_three position (by omega) three (by omega)
  case isFalse small notTwo notThree =>
    exact decodeFrom_four position (by omega) (by omega)

/-- Encoded characters are decoded one after the other. -/
theorem decodeFrom_encode
    (position : Nat)
    (decoded characters : List Char) :
    decodeFrom position decoded none (encode characters) = .ok (decoded.reverse ++ characters) := by
  induction characters generalizing position decoded with
  | nil => simp [encode, decodeFrom]
  | cons character rest inductionHypothesis =>
      rw [encode, List.flatMap_cons, decodeFrom_encodeCharacter, ← encode, inductionHypothesis,
        List.reverse_cons, List.append_assoc, List.singleton_append]

/-- Decoding undoes encoding. -/
theorem decode_encode (characters : List Char) : decode (encode characters) = .ok characters :=
  decodeFrom_encode 0 [] characters

end Utf8

end ExpertAdvisor.Text
