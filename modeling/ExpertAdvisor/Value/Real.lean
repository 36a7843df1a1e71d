import ExpertAdvisor.Number.Numeral
import ExpertAdvisor.Value.Literal

namespace ExpertAdvisor

/-!
# The number that a value stands for

Numbers and flags stand for numbers, and so do texts that hold a real numeral,
in the digits of any script.  Bytes are read as ASCII.  An integer beyond the
range of binary64 has no number, and neither has a text with half of a surrogate
pair.
-/

/-- Why a value stands for no number. -/
inductive RealFault where
  | unreadable (shown : String)
  | notNumber (kindName : String)
  | oversized
  deriving Repr, DecidableEq

namespace RealFault

/-- The class of a failure to read a number. -/
def className : RealFault → String
  | .unreadable _ => "ValueError"
  | .notNumber _ => "TypeError"
  | .oversized => "OverflowError"

/-- A failure to read a number, in words. -/
def message : RealFault → String
  | .unreadable shown => "could not convert string to float: " ++ shown
  | .notNumber kindName =>
      "float() argument must be a string or a real number, not '" ++ kindName ++ "'"
  | .oversized => "int too large to convert to float"

end RealFault

namespace Value

/-- The characters of bytes that are all ASCII. -/
def asciiCharacters? (content : List UInt8) : Option (List Char) :=
  if content.all fun byte => byte.toNat < 0x80 then
    some (content.map fun byte => Char.ofNat byte.toNat)
  else
    none

/-- A number that an integer was rounded to, unless it is not finite. -/
def finiteReal (number : Binary64) : Except RealFault Binary64 :=
  match number.finite? with
  | some finite => .ok (.finite finite)
  | none => .error .oversized

/-- The number nearest to an integer, unless that is not finite. -/
def realOfInteger (number : Int) : Except RealFault Binary64 :=
  finiteReal (.ofInt number)

/-- The kind of a value as a message about numbers names it. -/
def qualifiedKindName : Value → String
  | .moment content => "datetime." ++ content.kindName
  | value => value.kindName

/-- The number that a value stands for. -/
def toReal (value : Value) : Except RealFault Binary64 :=
  match value with
  | .real number => .ok number
  | .boolean flag => .ok (.ofInt (if flag then 1 else 0))
  | .integer number => realOfInteger number
  | .text content =>
      match Number.real? Text.decimalDigit? content.toList with
      | some number => .ok number
      | none => .error (.unreadable value.literal)
  | .bytes content =>
      match (asciiCharacters? content).bind (Number.real? Text.asciiDigit?) with
      | some number => .ok number
      | none => .error (.unreadable value.literal)
  | .unpaired _ => .error (.unreadable value.literal)
  | .null | .moment _ | .list _ | .record _ | .misnamed _ _ =>
      .error (.notNumber value.qualifiedKindName)

end Value

end ExpertAdvisor
