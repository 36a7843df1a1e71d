import ExpertAdvisor.Number.DecimalText
import ExpertAdvisor.Value.Basic

namespace ExpertAdvisor.Json

/-!
# Writing JSON

JSON is written in ASCII: a character beyond it is escaped by its UTF-16 code
units, and half of a surrogate pair by itself.  The compact layout separates with
a comma and a space; the indented layout gives every item a line of its own.
-/

/-- The escape of a UTF-16 code unit. -/
def unitEscape (unit : Nat) : List Char :=
  "\\u".toList ++ (Number.hexText 4 unit).toList

/-- A character of a text, where it may need an escape. -/
def escapeCharacter (character : Char) : List Char :=
  let codePoint := character.toNat
  if character == '"' then ['\\', '"']
  else if character == '\\' then ['\\', '\\']
  else if character == '\n' then ['\\', 'n']
  else if character == '\r' then ['\\', 'r']
  else if character == '\t' then ['\\', 't']
  else if character == '\x08' then ['\\', 'b']
  else if character == '\x0c' then ['\\', 'f']
  else if 0x20 ≤ codePoint && codePoint < 0x7F then [character]
  else if codePoint < 0x10000 then unitEscape codePoint
  else
    unitEscape (0xD800 + (codePoint - 0x10000) / 0x400) ++
      unitEscape (0xDC00 + (codePoint - 0x10000) % 0x400)

/-- A text between quotes. -/
def quotedText (text : String) : String :=
  String.ofList ('"' :: (text.toList.flatMap escapeCharacter ++ ['"']))

/-- A code point of a text. -/
def escapePoint : Text.CodePoint → List Char
  | .character content => escapeCharacter content
  | .half unit => unitEscape unit

/-- A text between quotes, given by its code points. -/
def quotedPoints (points : List Text.CodePoint) : String :=
  String.ofList ('"' :: (points.flatMap escapePoint ++ ['"']))

/-- How items are set apart: within a line, or on lines of their own at a depth of indentation. -/
inductive Layout where
  | compact
  | indented (depth : Nat)
  deriving Repr, DecidableEq

namespace Layout

/-- The layout of the items of a container. -/
def deeper : Layout → Layout
  | .compact => .compact
  | .indented depth => .indented (depth + 1)

/-- A line break with the indentation of a depth. -/
def lineBreak (depth : Nat) : String :=
  "\n" ++ String.ofList (List.replicate (2 * depth) ' ')

/-- Items between brackets, set apart as the layout asks for. -/
def enclose
    (layout : Layout)
    (opening closing : String)
    (items : List String) : String :=
  if items.isEmpty then
    opening ++ closing
  else
    match layout with
    | .compact => opening ++ ", ".intercalate items ++ closing
    | .indented depth =>
        opening ++ lineBreak (depth + 1) ++
          ("," ++ lineBreak (depth + 1)).intercalate items ++ lineBreak depth ++ closing

end Layout

/-- A number, which need not be finite. -/
def numberText : Binary64 → String
  | .nan => "NaN"
  | .infinite true => "-Infinity"
  | .infinite false => "Infinity"
  | .finite number => number.text

mutual

/-- A value as JSON; bytes are written as a list of their numbers, and a moment as its literal. -/
def print
    (layout : Layout) :
    Value → String
  | .null => "null"
  | .boolean true => "true"
  | .boolean false => "false"
  | .integer number => Number.integerText number
  | .real number => numberText number
  | .text content => quotedText content
  | .unpaired content => quotedPoints content
  | .bytes content =>
      layout.enclose "[" "]" (content.map fun byte => Number.naturalText byte.toNat)
  | .moment content => quotedText content.literal
  | .list items => layout.enclose "[" "]" (printItems layout.deeper items)
  | .record fields => layout.enclose "\x7b" "\x7d" (printFields layout.deeper fields)
  | .misnamed names values =>
      layout.enclose "\x7b" "\x7d"
        (names.zipWith (fun name printed => quotedPoints name ++ ": " ++ printed)
          (printItems layout.deeper values))

/-- The items of a list. -/
def printItems
    (layout : Layout) :
    List Value → List String
  | [] => []
  | item :: rest => print layout item :: printItems layout rest

/-- The fields of a record, each a name and a value. -/
def printFields
    (layout : Layout) :
    List (String × Value) → List String
  | [] => []
  | (name, value) :: rest =>
      (quotedText name ++ ": " ++ print layout value) :: printFields layout rest

end

end ExpertAdvisor.Json
