import ExpertAdvisor.Text.Utf8
import ExpertAdvisor.Text.Utf16

namespace ExpertAdvisor.Text

/-!
# Encodings of indicator source

Indicator editors save UTF-16 behind a byte order mark.  Everything else is
UTF-8, whose own mark is dropped.
-/

/-- The byte order mark in UTF-8. -/
def utf8Mark : List UInt8 := [0xEF, 0xBB, 0xBF]

/-- The byte order mark of little-endian UTF-16. -/
def littleEndianMark : List UInt8 := [0xFF, 0xFE]

/-- The byte order mark of big-endian UTF-16. -/
def bigEndianMark : List UInt8 := [0xFE, 0xFF]

/-- Reads marked UTF-16, or UTF-8 with or without a mark. -/
def decodeSource : List UInt8 → Except DecodingFault (List Char)
  | 0xFF :: 0xFE :: units => Utf16.decode .littleEndian 2 units
  | 0xFE :: 0xFF :: units => Utf16.decode .bigEndian 2 units
  | 0xEF :: 0xBB :: 0xBF :: bytes => Utf8.decode bytes
  | bytes => Utf8.decode bytes

/-- The text of indicator source saved as these bytes. -/
def decodeSourceText (bytes : List UInt8) : Except DecodingFault String :=
  (decodeSource bytes).map String.ofList

/-- The text of plain UTF-8, where a mark is an ordinary character. -/
def decodePlainText (bytes : List UInt8) : Except DecodingFault String :=
  (Utf8.decode bytes).map String.ofList

/-- A text in UTF-8. -/
def encodeText (text : String) : List UInt8 :=
  Utf8.encode text.toList

end ExpertAdvisor.Text
