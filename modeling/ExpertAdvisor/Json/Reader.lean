import ExpertAdvisor.Number.Numeral
import ExpertAdvisor.Value.Basic

namespace ExpertAdvisor.Json

/-!
# Reading JSON

The reader accepts JSON text, and besides it the three names of the numbers that
are not finite.  The text is a list of code points, and so are the texts and
names in it: half of a surrogate pair may stand in them alone, as it is or as an
escape.  A refused text yields one fault: the first complaint and the position
of the code point it is about.  While reading, a complaint carries the text from
its position on; the position is what is missing from the whole.

How deeply values may be nested is not limited here.
-/

open Text (CodePoint codePoints)

/-- What is wrong with a JSON text. -/
inductive Complaint where
  | expectedName
  | expectedColon
  | expectedComma
  | expectedValue
  | unterminatedText
  | controlCharacter
  | unknownEscape
  | malformedCodePoint
  | extraText
  | byteOrderMark
  | oversizedInteger (digits : Nat)
  deriving Repr, DecidableEq

/-- How many digits an integer may have. -/
def digitLimit : Nat := 4300

namespace Complaint

/-- What is wrong, in words. -/
def description : Complaint → String
  | .expectedName => "Expecting property name enclosed in double quotes"
  | .expectedColon => "Expecting ':' delimiter"
  | .expectedComma => "Expecting ',' delimiter"
  | .expectedValue => "Expecting value"
  | .unterminatedText => "Unterminated string starting at"
  | .controlCharacter => "Invalid control character at"
  | .unknownEscape => "Invalid \\escape"
  | .malformedCodePoint => "Invalid \\uXXXX escape"
  | .extraText => "Extra data"
  | .byteOrderMark => "Unexpected UTF-8 BOM (decode using utf-8-sig)"
  | .oversizedInteger digits =>
      "Exceeds the limit (" ++ Number.naturalText digitLimit ++
        " digits) for integer string conversion: value has " ++ Number.naturalText digits ++
        " digits; use sys.set_int_max_str_digits() to increase the limit"

/-- Whether a complaint is about a number that is JSON, but has no room. -/
def isOversized : Complaint → Bool
  | .oversizedInteger _ => true
  | _ => false

end Complaint

/-- A complaint with the text that begins where it points. -/
structure Objection where
  complaint : Complaint
  onward : List CodePoint
  deriving Repr, DecidableEq

/-- What reading a part yields: its value and the text after it. -/
abbrev Reading (α : Type) := Except Objection (α × List CodePoint)

/-- Whether a character may stand between tokens. -/
def isGap (character : Char) : Bool :=
  character == ' ' || character == '\t' || character == '\n' || character == '\r'

/-- The text after the gap at its start. -/
def skipGap (points : List CodePoint) : List CodePoint :=
  points.dropWhile fun point => point.character?.any isGap

/-- The character that a one-letter escape stands for. -/
def shortEscape? : Char → Option Char
  | '"' => some '"'
  | '\\' => some '\\'
  | '/' => some '/'
  | 'b' => some '\x08'
  | 'f' => some '\x0c'
  | 'n' => some '\n'
  | 'r' => some '\r'
  | 't' => some '\t'
  | _ => none

/-- The value of four hexadecimal digits. -/
def codeUnit? (first second third fourth : CodePoint) : Option Nat := do
  let digits ← [first, second, third, fourth].mapM fun point =>
    point.character?.bind Number.hexDigit?
  return Number.valueOf 16 digits

/-- Whether a code unit is the first half of a pair. -/
def opensPair (unit : Nat) : Bool :=
  0xD800 ≤ unit && unit ≤ 0xDBFF

/-- Whether a code unit is the second half of a pair. -/
def closesPair (unit : Nat) : Bool :=
  0xDC00 ≤ unit && unit ≤ 0xDFFF

/-- The character of a pair of code units. -/
def pairCharacter (high low : Nat) : Char :=
  Char.ofNat (0x10000 + (high - 0xD800) * 0x400 + (low - 0xDC00))

/-- Reads a text up to its closing quote, after the code points already read in reverse. -/
def readText
    (opening : List CodePoint)
    (read : List CodePoint) :
    List CodePoint → Reading (List CodePoint)
  | [] => .error ⟨.unterminatedText, opening⟩
  | .character '"' :: rest => .ok (read.reverse, rest)
  | .character '\\' :: .character 'u' :: a :: b :: c :: d ::
      .character '\\' :: .character 'u' :: e :: f :: g :: h :: last :: rest =>
      match codeUnit? a b c d with
      | none =>
          .error ⟨.malformedCodePoint, .character 'u' :: a :: b :: c :: d ::
            .character '\\' :: .character 'u' :: e :: f :: g :: h :: last :: rest⟩
      | some unit =>
          if opensPair unit then
            match codeUnit? e f g h with
            | none =>
                .error ⟨.malformedCodePoint, .character 'u' :: e :: f :: g :: h :: last :: rest⟩
            | some partner =>
                if closesPair partner then
                  readText opening (.character (pairCharacter unit partner) :: read) (last :: rest)
                else
                  readText opening (.ofUnit unit :: read)
                    (.character '\\' :: .character 'u' :: e :: f :: g :: h :: last :: rest)
          else
            readText opening (.ofUnit unit :: read)
              (.character '\\' :: .character 'u' :: e :: f :: g :: h :: last :: rest)
  | .character '\\' :: .character 'u' :: a :: b :: c :: d :: last :: rest =>
      match codeUnit? a b c d with
      | none =>
          .error ⟨.malformedCodePoint, .character 'u' :: a :: b :: c :: d :: last :: rest⟩
      | some unit => readText opening (.ofUnit unit :: read) (last :: rest)
  | .character '\\' :: .character 'u' :: rest =>
      .error ⟨.malformedCodePoint, .character 'u' :: rest⟩
  | .character '\\' :: escape :: rest =>
      match escape.character?.bind shortEscape? with
      | none => .error ⟨.unknownEscape, .character '\\' :: escape :: rest⟩
      | some character => readText opening (.character character :: read) rest
  | [.character '\\'] => .error ⟨.unterminatedText, opening⟩
  | point :: rest =>
      if point.character?.any fun character => character.toNat < 0x20 then
        .error ⟨.controlCharacter, point :: rest⟩
      else
        readText opening (point :: read) rest

/-- The digits at the start of a text, and the text after them. -/
def digitsAhead : List CodePoint → List Char × List CodePoint
  | .character character :: rest =>
      if character.isDigit then
        let (digits, ending) := digitsAhead rest
        (character :: digits, ending)
      else
        ([], .character character :: rest)
  | points => ([], points)

/-- The integer digits of a number: a zero alone, or digits that do not begin with zero. -/
def integerDigits : List CodePoint → List Char × List CodePoint
  | .character '0' :: rest => (['0'], rest)
  | points => digitsAhead points

/-- A fraction: a point and at least one digit. -/
def fractionDigits : List CodePoint → List Char × List CodePoint
  | .character '.' :: rest =>
      match digitsAhead rest with
      | ([], _) => ([], .character '.' :: rest)
      | (digits, ending) => ('.' :: digits, ending)
  | points => ([], points)

/-- The sign at the start of an exponent, and the text after it. -/
def exponentSign : List CodePoint → List Char × List CodePoint
  | .character '+' :: rest => (['+'], rest)
  | .character '-' :: rest => (['-'], rest)
  | points => ([], points)

/-- An exponent: its mark, perhaps a sign, and at least one digit. -/
def exponentDigits (points : List CodePoint) : List Char × List CodePoint :=
  match points with
  | .character marker :: rest =>
      if marker == 'e' || marker == 'E' then
        let (sign, unsigned) := exponentSign rest
        match digitsAhead unsigned with
        | ([], _) => ([], points)
        | (digits, ending) => (marker :: sign ++ digits, ending)
      else
        ([], points)
  | _ => ([], points)

/-- The minus sign of a number, and the text after it. -/
def minusSign : List CodePoint → List Char × List CodePoint
  | .character '-' :: rest => (['-'], rest)
  | points => ([], points)

/-- Reads a number: an integer, which has a limit, unless it has a fraction or an exponent. -/
def readNumber (points : List CodePoint) : Reading Value :=
  let (sign, unsigned) := minusSign points
  match integerDigits unsigned with
  | ([], _) => .error ⟨.expectedValue, points⟩
  | (whole, afterWhole) =>
      let (fraction, afterFraction) := fractionDigits afterWhole
      let (exponent, ending) := exponentDigits afterFraction
      if fraction.isEmpty && exponent.isEmpty then
        if digitLimit < whole.length then
          .error ⟨.oversizedInteger whole.length, points⟩
        else
          match Number.integer? Text.asciiDigit? (sign ++ whole) with
          | some number => .ok (.integer number, ending)
          | none => .error ⟨.expectedValue, points⟩
      else
        match Number.real? Text.asciiDigit? (sign ++ whole ++ fraction ++ exponent) with
        | some number => .ok (.real number, ending)
        | none => .error ⟨.expectedValue, points⟩

/-- The words that stand for values. -/
def keywords : List (String × Value) :=
  [("null", .null), ("true", .boolean true), ("false", .boolean false), ("NaN", .real .nan),
    ("Infinity", .real (.infinite false)), ("-Infinity", .real (.infinite true))]

/-- The value of the word at the start of a text, and the text after it. -/
def keyword? (points : List CodePoint) : Option (Value × List CodePoint) :=
  keywords.findSome? fun (word, value) =>
    if (codePoints word.toList).isPrefixOf points then some (value, points.drop word.length)
    else none

mutual

/-- Reads one value. -/
def readValue
    (fuel : Nat)
    (points : List CodePoint) : Reading Value :=
  match fuel with
  | 0 => .error ⟨.expectedValue, points⟩
  | more + 1 =>
      match points with
      | .character '"' :: rest =>
          match readText points [] rest with
          | .ok (content, ending) => .ok (.ofCodePoints content, ending)
          | .error objection => .error objection
      | .character '\x7b' :: rest =>
          match skipGap rest with
          | .character '\x7d' :: ending => .ok (.record [], ending)
          | fields => readFields more [] fields
      | .character '[' :: rest =>
          match skipGap rest with
          | .character ']' :: ending => .ok (.list [], ending)
          | items => readItems more [] items
      | other =>
          match keyword? other with
          | some (value, ending) => .ok (value, ending)
          | none => readNumber other

/-- Reads the items of a list up to its closing bracket. -/
def readItems
    (fuel : Nat)
    (read : List Value)
    (points : List CodePoint) : Reading Value :=
  match fuel with
  | 0 => .error ⟨.expectedValue, points⟩
  | more + 1 =>
      match readValue more points with
      | .error objection => .error objection
      | .ok (item, afterItem) =>
          match skipGap afterItem with
          | .character ']' :: ending => .ok (.list (item :: read).reverse, ending)
          | .character ',' :: rest => readItems more (item :: read) (skipGap rest)
          | other => .error ⟨.expectedComma, other⟩

/-- Reads the fields of a record up to its closing brace. -/
def readFields
    (fuel : Nat)
    (read : List (List CodePoint × Value))
    (points : List CodePoint) : Reading Value :=
  match fuel with
  | 0 => .error ⟨.expectedValue, points⟩
  | more + 1 =>
      match points with
      | .character '"' :: rest =>
          match readText points [] rest with
          | .error objection => .error objection
          | .ok (name, afterName) =>
              match skipGap afterName with
              | .character ':' :: afterColon =>
                  match readValue more (skipGap afterColon) with
                  | .error objection => .error objection
                  | .ok (value, afterValue) =>
                      match skipGap afterValue with
                      | .character '\x7d' :: ending =>
                          .ok (.ofFields ((name, value) :: read).reverse, ending)
                      | .character ',' :: following =>
                          readFields more ((name, value) :: read) (skipGap following)
                      | other => .error ⟨.expectedComma, other⟩
              | other => .error ⟨.expectedColon, other⟩
      | other => .error ⟨.expectedName, other⟩

end

/-- A complaint and the position of the code point it is about. -/
structure Fault where
  complaint : Complaint
  position : Nat
  line : Nat
  column : Nat
  deriving Repr, DecidableEq

/-- Locates an objection in the whole text. -/
def locate
    (document : List CodePoint)
    (objection : Objection) : Fault :=
  let position := document.length - objection.onward.length
  let before := document.take position
  { complaint := objection.complaint
    position := position
    line := before.count (.character '\n') + 1
    column := (before.reverse.takeWhile (· != .character '\n')).length + 1 }

namespace Fault

/-- The class under which a fault is known: an oversized integer is no fault of the notation. -/
def className (fault : Fault) : String :=
  if fault.complaint.isOversized then "ValueError" else "JSONDecodeError"

/-- The complaint with its line, its column and its position, which no oversized integer tells. -/
def message (fault : Fault) : String :=
  if fault.complaint.isOversized then fault.complaint.description
  else
    fault.complaint.description ++ ": line " ++ Number.naturalText fault.line ++ " column " ++
      Number.naturalText fault.column ++ " (char " ++ Number.naturalText fault.position ++ ")"

end Fault

/-- Reads a document: one value with nothing but gaps around it. -/
def readDocument (document : List CodePoint) : Except Objection Value :=
  match readValue (document.length + 1) (skipGap document) with
  | .error objection => .error objection
  | .ok (value, rest) =>
      match skipGap rest with
      | [] => .ok value
      | extra => .error ⟨.extraText, extra⟩

/-- Reads a document that is given by its code points. -/
def readPoints (document : List CodePoint) : Except Fault Value :=
  (readDocument document).mapError (locate document)

/-- Reads the document in a text, which must not begin with a byte order mark. -/
def read (text : String) : Except Fault Value :=
  if text.toList.head? = some '\uFEFF' then .error ⟨.byteOrderMark, 0, 1, 1⟩
  else readPoints (codePoints text.toList)

end ExpertAdvisor.Json
