import ExpertAdvisor.Number.DecimalText
import ExpertAdvisor.Text.Quoted
import ExpertAdvisor.Value.Basic

namespace ExpertAdvisor.Value

/-!
# Values in messages

The literal of a value shows its kind: texts are quoted, lists and records are
bracketed.  On display, a text stands for itself, with stand-ins for halves of
surrogate pairs, a moment is written out, and every other value is shown by its
literal.
-/

/-- The literal of a record whose names and values are given by their literals. -/
def recordLiteral (names values : List String) : String :=
  "\x7b" ++ ", ".intercalate (names.zipWith (fun name value => name ++ ": " ++ value) values) ++
    "\x7d"

mutual

/-- The literal of a value. -/
def literal : Value → String
  | .null => "None"
  | .boolean true => "True"
  | .boolean false => "False"
  | .integer number => Number.integerText number
  | .real number => number.text
  | .text content => Text.quoted content
  | .unpaired content => Text.quotedPoints content
  | .bytes content => Text.quotedBytes content
  | .moment content => content.literal
  | .list items => "[" ++ ", ".intercalate (literals items) ++ "]"
  | .record fields => "\x7b" ++ ", ".intercalate (fieldLiterals fields) ++ "\x7d"
  | .misnamed names values => recordLiteral (names.map Text.quotedPoints) (literals values)

/-- The literals of list items. -/
def literals : List Value → List String
  | [] => []
  | item :: rest => literal item :: literals rest

/-- The literals of record fields, each a quoted name and a value. -/
def fieldLiterals : List (String × Value) → List String
  | [] => []
  | (name, value) :: rest => (Text.quoted name ++ ": " ++ literal value) :: fieldLiterals rest

end

/-- The text of a value where it is shown without quotes. -/
def display : Value → String
  | .text content => content
  | .unpaired content => Text.standingIn content
  | .moment content => content.text
  | value => literal value

/-- An integer is displayed in decimal digits. -/
theorem display_integer (number : Int) :
    display (.integer number) = Number.integerText number := rfl

end ExpertAdvisor.Value
