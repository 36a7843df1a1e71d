import ExpertAdvisor.Text.SourceEncoding
import ExpertAdvisor.Text.Utf32

namespace ExpertAdvisor.Json

/-!
# Encodings of JSON

JSON may arrive in UTF-8, UTF-16 or UTF-32.  A byte order mark tells which; if
there is none, the zero bytes among the first four do, because JSON begins with
ASCII.  Halves of surrogate pairs pass in all of them.
-/

/-- An encoding, behind its byte order mark if there is one. -/
inductive Encoding where
  | utf8
  | utf16 (order : Text.Utf16.ByteOrder)
  | utf32 (order : Text.Utf16.ByteOrder)
  deriving Repr, DecidableEq

/-- The encoding of bytes, and the bytes after the mark. -/
def detect (bytes : List UInt8) : Encoding × List UInt8 :=
  match bytes with
  | 0x00 :: 0x00 :: 0xFE :: 0xFF :: rest => (.utf32 .bigEndian, rest)
  | 0xFF :: 0xFE :: 0x00 :: 0x00 :: rest => (.utf32 .littleEndian, rest)
  | 0xFE :: 0xFF :: rest => (.utf16 .bigEndian, rest)
  | 0xFF :: 0xFE :: rest => (.utf16 .littleEndian, rest)
  | 0xEF :: 0xBB :: 0xBF :: rest => (.utf8, rest)
  | a :: b :: c :: d :: _ =>
      if a == 0 then
        (if b == 0 then .utf32 .bigEndian else .utf16 .bigEndian, bytes)
      else if b == 0 then
        (if c == 0 && d == 0 then .utf32 .littleEndian else .utf16 .littleEndian, bytes)
      else
        (.utf8, bytes)
  | [a, b] =>
      if a == 0 then (.utf16 .bigEndian, bytes)
      else if b == 0 then (.utf16 .littleEndian, bytes)
      else (.utf8, bytes)
  | _ => (.utf8, bytes)

/-- The code points that bytes encode, if they do. -/
def decode? (bytes : List UInt8) : Option (List Text.CodePoint) :=
  match detect bytes with
  | (.utf8, rest) => Text.Utf8.decodePassing? rest
  | (.utf16 order, rest) => Text.Utf16.decodePassing? order rest
  | (.utf32 order, rest) => Text.Utf32.decode? order rest

end ExpertAdvisor.Json
