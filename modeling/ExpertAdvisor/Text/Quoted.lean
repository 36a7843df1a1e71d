import ExpertAdvisor.Number.Digits
import ExpertAdvisor.Text.CodePoint
import ExpertAdvisor.Text.Printable

namespace ExpertAdvisor.Text

/-!
# Quoted text in messages

Messages show a text between quotes, single ones unless the text holds a single
quote and no double one.  The quote in use, backslashes and everything that is
not printable are escaped, and so is half of a surrogate pair.
-/

/-- The quote that needs the fewest escapes, single by preference. -/
def quoteFor (characters : List Char) : Char :=
  if characters.contains '\'' && !characters.contains '"' then '"' else '\''

/-- The numeric escape of a character, as short as its code point allows. -/
def numericEscape (character : Char) : String :=
  let codePoint := character.toNat
  if codePoint < 0x100 then "\\x" ++ Number.hexText 2 codePoint
  else if codePoint < 0x10000 then "\\u" ++ Number.hexText 4 codePoint
  else "\\U" ++ Number.hexText 8 codePoint

/-- A character between quotes, where it may need an escape. -/
def escapeQuoted
    (quote character : Char) : String :=
  if character == quote || character == '\\' then String.ofList ['\\', character]
  else if character == '\n' then "\\n"
  else if character == '\r' then "\\r"
  else if character == '\t' then "\\t"
  else if isPrintable character then String.singleton character
  else numericEscape character

/-- A code point between quotes. -/
def escapeQuotedPoint
    (quote : Char) :
    CodePoint → String
  | .character content => escapeQuoted quote content
  | .half unit => "\\u" ++ Number.hexText 4 unit

/-- A text between quotes, given by its code points. -/
def quotedPoints (points : List CodePoint) : String :=
  let quote := quoteFor (points.map CodePoint.standIn)
  String.singleton quote ++ String.join (points.map (escapeQuotedPoint quote)) ++
    String.singleton quote

/-- A text between quotes. -/
def quoted (text : String) : String :=
  quotedPoints (codePoints text.toList)

/-- One byte between quotes, where only printable ASCII stands for itself. -/
def escapeQuotedByte
    (quote : Char)
    (byte : UInt8) : String :=
  if byte.toNat < 0x7F then escapeQuoted quote (Char.ofNat byte.toNat)
  else numericEscape (Char.ofNat byte.toNat)

/-- Bytes between quotes, marked as bytes. -/
def quotedBytes (bytes : List UInt8) : String :=
  let quote := quoteFor (bytes.map fun byte => Char.ofNat byte.toNat)
  "b" ++ String.singleton quote ++ String.join (bytes.map (escapeQuotedByte quote)) ++
    String.singleton quote

end ExpertAdvisor.Text
