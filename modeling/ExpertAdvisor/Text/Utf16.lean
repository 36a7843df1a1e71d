import ExpertAdvisor.Text.CodePoint
import ExpertAdvisor.Text.DecodingFault

namespace ExpertAdvisor.Text.Utf16

/-!
# UTF-16

A code unit is two bytes in either order.  A character past `U+FFFF` takes a
high surrogate unit followed by a low one; a surrogate outside such a pair is
refused, and so is an odd byte at the end.  Where surrogates pass, one outside a
pair stands alone.
-/

/-- The order of the two bytes of a code unit. -/
inductive ByteOrder where
  | littleEndian
  | bigEndian
  deriving Repr, DecidableEq

namespace ByteOrder

/-- The encoding that writes its units in this order. -/
def encoding : ByteOrder → Encoding
  | .littleEndian => .utf16LittleEndian
  | .bigEndian => .utf16BigEndian

/-- The code unit that two bytes make. -/
def combine
    (order : ByteOrder)
    (first second : UInt8) : Nat :=
  match order with
  | .littleEndian => first.toNat + second.toNat * 0x100
  | .bigEndian => first.toNat * 0x100 + second.toNat

/-- The two bytes of a code unit. -/
def separate
    (order : ByteOrder)
    (unit : Nat) : List UInt8 :=
  match order with
  | .littleEndian => [UInt8.ofNat (unit % 0x100), UInt8.ofNat (unit / 0x100)]
  | .bigEndian => [UInt8.ofNat (unit / 0x100), UInt8.ofNat (unit % 0x100)]

end ByteOrder

/-- The code units of a character: one, or a surrogate pair. -/
def units (character : Char) : List Nat :=
  let codePoint := character.toNat
  if codePoint < 0x10000 then
    [codePoint]
  else
    [0xD800 + (codePoint - 0x10000) / 0x400, 0xDC00 + (codePoint - 0x10000) % 0x400]

/-- Characters in UTF-16, without a byte order mark. -/
def encode
    (order : ByteOrder)
    (characters : List Char) : List UInt8 :=
  characters.flatMap fun character => (units character).flatMap order.separate

/-- Whether a code unit opens a pair. -/
def isHighSurrogate (unit : Nat) : Bool :=
  0xD800 ≤ unit && unit ≤ 0xDBFF

/-- Whether a code unit closes a pair. -/
def isLowSurrogate (unit : Nat) : Bool :=
  0xDC00 ≤ unit && unit ≤ 0xDFFF

/-- The code point of a surrogate pair. -/
def pairCodePoint (high low : Nat) : Nat :=
  0x10000 + (high - 0xD800) * 0x400 + (low - 0xDC00)

/-- A high surrogate unit that waits for its partner. -/
structure Opened where
  start : Nat
  unit : Nat
  bytes : List UInt8
  deriving Repr, DecidableEq

/-- Reads units on from a position, with the characters already decoded in reverse. -/
def decodeFrom
    (order : ByteOrder)
    (position : Nat)
    (decoded : List Char)
    (opened : Option Opened) :
    List UInt8 → Except DecodingFault (List Char)
  | [] =>
      match opened with
      | none => .ok decoded.reverse
      | some high => .error ⟨order.encoding, high.start, high.bytes, .unexpectedEnd⟩
  | [odd] =>
      match opened with
      | none => .error ⟨order.encoding, position, [odd], .truncated⟩
      | some high => .error ⟨order.encoding, high.start, high.bytes ++ [odd], .unexpectedEnd⟩
  | first :: second :: rest =>
      let unit := order.combine first second
      match opened with
      | none =>
          if isHighSurrogate unit then
            decodeFrom order (position + 2) decoded
              (some ⟨position, unit, [first, second]⟩) rest
          else if isLowSurrogate unit then
            .error ⟨order.encoding, position, [first, second], .unpairedLowSurrogate⟩
          else
            decodeFrom order (position + 2) (Char.ofNat unit :: decoded) none rest
      | some high =>
          if isLowSurrogate unit then
            decodeFrom order (position + 2)
              (Char.ofNat (pairCodePoint high.unit unit) :: decoded) none rest
          else
            .error ⟨order.encoding, high.start, high.bytes, .unpairedHighSurrogate⟩

/-- The text that a byte sequence encodes, with positions counted from `position`. -/
def decode
    (order : ByteOrder)
    (position : Nat)
    (bytes : List UInt8) : Except DecodingFault (List Char) :=
  decodeFrom order position [] none bytes

/-- The code units of bytes; no byte may be left over. -/
def units?
    (order : ByteOrder) :
    List UInt8 → Option (List Nat)
  | [] => some []
  | [_] => none
  | first :: second :: rest => (units? order rest).map (order.combine first second :: ·)

/-- The code points of code units; a surrogate without its partner stands alone. -/
def pointsOf : List Nat → List CodePoint
  | [] => []
  | [unit] => [.ofUnit unit]
  | high :: low :: rest =>
      if isHighSurrogate high && isLowSurrogate low then
        .character (Char.ofNat (pairCodePoint high low)) :: pointsOf rest
      else
        .ofUnit high :: pointsOf (low :: rest)

/-- The code points that bytes encode where surrogates pass. -/
def decodePassing?
    (order : ByteOrder)
    (bytes : List UInt8) : Option (List CodePoint) :=
  (units? order bytes).map pointsOf

end ExpertAdvisor.Text.Utf16
