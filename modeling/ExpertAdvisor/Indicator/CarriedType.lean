import ExpertAdvisor.Indicator.Parameter
import ExpertAdvisor.Number.Digits
import ExpertAdvisor.Text.Blank
import ExpertAdvisor.Text.DecimalDigit
import ExpertAdvisor.Text.Lines

namespace ExpertAdvisor.Indicator

/-!
# Carried types

An expert advisor declares a carried parameter again.  It reuses the declared
type when that is built in or a standard enumeration; otherwise it takes a type
that the shape of the default text suggests.
-/

/-- The types that need no definition of the indicator's own. -/
def builtInTypes : List String :=
  ["bool", "char", "uchar", "short", "ushort", "int", "uint", "long", "ulong",
    "float", "double", "string", "color", "datetime"]

/-- The start of the standard enumerations' names. -/
def enumerationMark : List Char := "ENUM_".toList

/-- Characters without a sign in front of them. -/
def withoutSign : List Char → List Char
  | '+' :: rest => rest
  | '-' :: rest => rest
  | characters => characters

/-- Whether a text is one or more decimal digits. -/
def isDigits (characters : List Char) : Bool :=
  !characters.isEmpty && characters.all Text.isDecimalDigit

/-- Whether a text is an integer literal: digits, or hexadecimal digits behind `0x`. -/
def isIntegerLiteral (characters : List Char) : Bool :=
  match withoutSign characters with
  | '0' :: marker :: digit :: digits =>
      if marker == 'x' || marker == 'X' then
        (digit :: digits).all fun character => (Number.hexDigit? character).isSome
      else
        isDigits ('0' :: marker :: digit :: digits)
  | unsigned => isDigits unsigned

/-- Whether a text is empty or an exponent. -/
def isExponent : List Char → Bool
  | [] => true
  | marker :: rest => (marker == 'e' || marker == 'E') && isDigits (withoutSign rest)

/-- Whether a text is a real literal: digits with a point among or around them, and an exponent. -/
def isRealLiteral (characters : List Char) : Bool :=
  let (whole, rest) := (withoutSign characters).span Text.isDecimalDigit
  match rest with
  | '.' :: afterPoint =>
      let (fraction, ending) := afterPoint.span Text.isDecimalDigit
      (!whole.isEmpty || !fraction.isEmpty) && isExponent ending
  | ending => !whole.isEmpty && isExponent ending

/-- Whether a text begins and ends with a double quote of its own. -/
def isQuoted (characters : List Char) : Bool :=
  characters.length ≥ 2 && characters.head? == some '"' && characters.getLast? == some '"'

/-- The type that the shape of a default text suggests; names of constants are integers. -/
def inferredType (default : String) : String :=
  let characters := Text.trimBlanks default.toList
  if characters == "true".toList || characters == "false".toList then "bool"
  else if isQuoted characters then "string"
  else if Text.beginsWith "D'".toList characters then "datetime"
  else if Text.beginsWith "C'".toList characters || Text.beginsWith "clr".toList characters then
    "color"
  else if isIntegerLiteral characters then "int"
  else if isRealLiteral characters then "double"
  else "int"

/-- Whether an expert advisor can use a type that an indicator declares. -/
def isCarriable (declaredType : String) : Bool :=
  builtInTypes.contains declaredType || Text.beginsWith enumerationMark declaredType.toList

/-- The type with which a parameter is declared again. -/
def carriedType (parameter : Parameter) : String :=
  match parameter.declaredType with
  | some declared =>
      if isCarriable declared then declared else inferredType parameter.default
  | none => inferredType parameter.default

end ExpertAdvisor.Indicator
