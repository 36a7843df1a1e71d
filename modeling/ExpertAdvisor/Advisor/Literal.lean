import ExpertAdvisor.Number.DecimalText

namespace ExpertAdvisor.Advisor

/-!
# Literals of the generated code

A string literal escapes what would end it or break its line.  A double literal
always shows that it is a double, by a point or by an exponent.
-/

/-- A character as a string literal holds it: marks and line breaks are escaped. -/
def escapeLiteral (character : Char) : List Char :=
  if character == '\\' then ['\\', '\\']
  else if character == '"' then ['\\', '"']
  else if character == '\n' then ['\\', 'n']
  else if character == '\r' then ['\\', 'r']
  else if character == '\t' then ['\\', 't']
  else [character]

/-- A text as a string literal. -/
def stringLiteral (text : String) : String :=
  String.ofList ('"' :: (text.toList.flatMap escapeLiteral ++ ['"']))

/-- Whether a numeral reads as a double by itself, because of a point or an exponent. -/
def showsDouble (numeral : String) : Bool :=
  numeral.toList.any fun character => character == '.' || character == 'e'

/-- A number as a double literal; the names of numbers that are not finite get a fraction too. -/
def doubleLiteral (number : Binary64) : String :=
  if showsDouble number.text then number.text else number.text ++ ".0"

/-- The literal of a finite number. -/
def finiteLiteral (number : FiniteBinary64) : String :=
  doubleLiteral (.finite number)

end ExpertAdvisor.Advisor
