import ExpertAdvisor.Json.Printer

namespace ExpertAdvisor.Json

/-!
# JSON as it is sent

A document is sent without gaps, and its characters are sent as they are, but
for those that JSON itself asks to escape.  Half of a surrogate pair stands in
the text as it is too, though no text with one can be encoded.
-/

open Text (CodePoint codePoints)

/-- A code point of a text as it is sent. -/
def wirePoint : CodePoint → List CodePoint
  | .character content =>
      if 0x20 ≤ content.toNat && content != '"' && content != '\\' then [.character content]
      else codePoints (escapeCharacter content)
  | .half unit => [.half unit]

/-- A text between quotes as it is sent. -/
def wireText (points : List CodePoint) : List CodePoint :=
  .character '"' :: (points.flatMap wirePoint ++ [.character '"'])

/-- Items with commas between them and brackets around them. -/
def wireEnclosed
    (opening closing : Char)
    (items : List (List CodePoint)) : List CodePoint :=
  .character opening :: ([.character ','].intercalate items ++ [.character closing])

/-- A field of a record: its name, a colon and its value. -/
def wireField (name value : List CodePoint) : List CodePoint :=
  wireText name ++ .character ':' :: value

mutual

/-- A value as it is sent. -/
def wire : Value → List CodePoint
  | .unpaired content => wireText content
  | .text content => wireText (codePoints content.toList)
  | .list items => wireEnclosed '[' ']' (wireItems items)
  | .record fields => wireEnclosed '\x7b' '\x7d' (wireFields fields)
  | .misnamed names values =>
      wireEnclosed '\x7b' '\x7d' (names.zipWith wireField (wireItems values))
  | value => codePoints (print .compact value).toList

/-- The items of a list as they are sent. -/
def wireItems : List Value → List (List CodePoint)
  | [] => []
  | item :: rest => wire item :: wireItems rest

/-- The fields of a record as they are sent. -/
def wireFields : List (String × Value) → List (List CodePoint)
  | [] => []
  | (name, value) :: rest =>
      wireField (codePoints name.toList) (wire value) :: wireFields rest

end

end ExpertAdvisor.Json
