import ExpertAdvisor.Text.CodePoint
import ExpertAdvisor.Text.DecodingFault

namespace ExpertAdvisor.Text.Utf8

/-!
# UTF-8

Encoding writes a character in one to four bytes.  Decoding reads one byte at a
time: a lead byte says in which ranges the bytes after it must lie, so overlong
forms, surrogates and code points past the last one are refused at the first
byte that rules them out.  Where surrogates pass, three bytes may encode one that
stands alone.
-/

/-- A number below 64 as a trailing byte. -/
def trailingByte (bits : Nat) : UInt8 :=
  UInt8.ofNat (0x80 + bits % 0x40)

/-- The bytes of a character: one to four. -/
def encodeCharacter (character : Char) : List UInt8 :=
  let codePoint := character.toNat
  if codePoint < 0x80 then
    [UInt8.ofNat codePoint]
  else if codePoint < 0x800 then
    [UInt8.ofNat (0xC0 + codePoint / 0x40), trailingByte codePoint]
  else if codePoint < 0x10000 then
    [UInt8.ofNat (0xE0 + codePoint / 0x1000), trailingByte (codePoint / 0x40),
      trailingByte codePoint]
  else
    [UInt8.ofNat (0xF0 + codePoint / 0x40000), trailingByte (codePoint / 0x1000),
      trailingByte (codePoint / 0x40), trailingByte codePoint]

/-- Characters in UTF-8. -/
def encode (characters : List Char) : List UInt8 :=
  characters.flatMap encodeCharacter

/-- The range of an unrestricted trailing byte. -/
def anyTrailing : Nat × Nat := (0x80, 0xBF)

/-- What a lead byte announces: its own bits, and the ranges of the bytes after it. -/
def lead? (byte : UInt8) : Option (Nat × List (Nat × Nat)) :=
  let value := byte.toNat
  if value < 0x80 then some (value, [])
  else if value < 0xC2 then none
  else if value < 0xE0 then some (value - 0xC0, [anyTrailing])
  else if value == 0xE0 then some (0, [(0xA0, 0xBF), anyTrailing])
  else if value == 0xED then some (0x0D, [(0x80, 0x9F), anyTrailing])
  else if value < 0xF0 then some (value - 0xE0, [anyTrailing, anyTrailing])
  else if value == 0xF0 then some (0, [(0x90, 0xBF), anyTrailing, anyTrailing])
  else if value < 0xF4 then some (value - 0xF0, [anyTrailing, anyTrailing, anyTrailing])
  else if value == 0xF4 then some (0x04, [(0x80, 0x8F), anyTrailing, anyTrailing])
  else none

/-- A character of which some bytes are read and at least one is owed. -/
structure Partial where
  start : Nat
  read : List UInt8
  bits : Nat
  next : Nat × Nat
  later : List (Nat × Nat)
  deriving Repr, DecidableEq

/-- The fault that the bytes read of a character make. -/
def Partial.fault
    (unfinished : Partial)
    (reason : IllFormed) : DecodingFault where
  encoding := .utf8
  start := unfinished.start
  bytes := unfinished.read
  reason := reason

/-- Reads bytes on from a position, with the characters already decoded in reverse. -/
def decodeFrom
    (position : Nat)
    (decoded : List Char)
    (pending : Option Partial) :
    List UInt8 → Except DecodingFault (List Char)
  | [] =>
      match pending with
      | none => .ok decoded.reverse
      | some unfinished => .error (unfinished.fault .unexpectedEnd)
  | byte :: rest =>
      match pending with
      | none =>
          match lead? byte with
          | none => .error ⟨.utf8, position, [byte], .invalidStart⟩
          | some (bits, []) =>
              decodeFrom (position + 1) (Char.ofNat bits :: decoded) none rest
          | some (bits, next :: later) =>
              decodeFrom (position + 1) decoded
                (some ⟨position, [byte], bits, next, later⟩) rest
      | some unfinished =>
          if unfinished.next.1 ≤ byte.toNat && byte.toNat ≤ unfinished.next.2 then
            let bits := unfinished.bits * 0x40 + byte.toNat % 0x40
            match unfinished.later with
            | [] => decodeFrom (position + 1) (Char.ofNat bits :: decoded) none rest
            | next :: later =>
                decodeFrom (position + 1) decoded
                  (some ⟨unfinished.start, unfinished.read ++ [byte], bits, next, later⟩) rest
          else
            .error (unfinished.fault .invalidContinuation)

/-- The text that a byte sequence encodes. -/
def decode (bytes : List UInt8) : Except DecodingFault (List Char) :=
  decodeFrom 0 [] none bytes

/-- The surrogate that three bytes encode, if they do. -/
def surrogate? (first second third : UInt8) : Option Nat :=
  if first == 0xED && 0xA0 ≤ second && second ≤ 0xBF && 0x80 ≤ third && third ≤ 0xBF then
    some (0xD000 + second.toNat % 0x40 * 0x40 + third.toNat % 0x40)
  else
    none

/-- Decodes what stands between surrogates; `plain` holds, in reverse, the bytes since the last. -/
def decodeAround?
    (plain : List UInt8) :
    List UInt8 → Option (List CodePoint)
  | first :: second :: third :: rest =>
      match surrogate? first second third with
      | some unit => do
          let before ← (decode plain.reverse).toOption
          let behind ← decodeAround? [] rest
          return codePoints before ++ .half unit :: behind
      | none => decodeAround? (first :: plain) (second :: third :: rest)
  | ending => (decode (plain.reverse ++ ending)).toOption.map codePoints

/-- The code points that bytes encode where surrogates pass. -/
def decodePassing? (bytes : List UInt8) : Option (List CodePoint) :=
  match decode bytes with
  | .ok characters => some (codePoints characters)
  | .error _ => decodeAround? [] bytes

/-- No bytes encode no text. -/
@[simp]
theorem decode_nil : decode [] = .ok [] := rfl

end ExpertAdvisor.Text.Utf8
