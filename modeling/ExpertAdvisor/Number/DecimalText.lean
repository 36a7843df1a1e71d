import ExpertAdvisor.Number.Shortest

namespace ExpertAdvisor

/-!
# Decimal text of binary64 numbers

A number is written with its shortest digits.  A format says which numbers are
written in positional form and how wide an exponent is; `plainFormat` is the
one format in use.
-/

/-- How a number's shortest digits are laid out. -/
structure DecimalFormat where
  leastPositional : Int
  greatestPositional : Int
  exponentDigits : Nat
  deriving Repr, DecidableEq

/-- Leading digit between the fourth decimal place and the sixteenth integer place is positional. -/
def plainFormat : DecimalFormat where
  leastPositional := -4
  greatestPositional := 15
  exponentDigits := 2

namespace DecimalFormat

/-- An exponent with its sign and at least the format's digits. -/
def exponentText
    (format : DecimalFormat)
    (exponent : Int) : String :=
  let digits := Number.naturalText exponent.natAbs
  (if exponent < 0 then "e-" else "e+") ++
    String.ofList (List.replicate (format.exponentDigits - digits.length) '0') ++ digits

/-- Digits with a point after the first `places` of them, with zeros where digits are missing. -/
def positional
    (digits : List Char)
    (places : Int) : String :=
  if places ≤ 0 then
    String.ofList (['0', '.'] ++ List.replicate places.natAbs '0' ++ digits)
  else
    let whole := digits.take places.natAbs
    let filling := List.replicate (places.natAbs - digits.length) '0'
    match digits.drop places.natAbs with
    | [] => String.ofList (whole ++ filling ++ ['.', '0'])
    | fraction => String.ofList (whole ++ '.' :: fraction)

/-- Digits in exponent form: a point follows the first digit when there are more. -/
def scientific
    (format : DecimalFormat)
    (digits : List Char)
    (exponent : Int) : String :=
  let mantissa :=
    match digits with
    | first :: second :: more => first :: '.' :: second :: more
    | short => short
  String.ofList mantissa ++ format.exponentText exponent

/-- A decimal as a format writes it: with a point in its place, or with an exponent. -/
def decimalText
    (format : DecimalFormat)
    (decimal : FiniteBinary64.Decimal) : String :=
  let digits := Nat.toDigits 10 decimal.digits
  let leading := decimal.exponent + digits.length - 1
  if format.leastPositional ≤ leading ∧ leading ≤ format.greatestPositional then
    positional digits (leading + 1)
  else
    format.scientific digits leading

/-- A finite number as a format writes its shortest decimal. -/
def finiteText
    (format : DecimalFormat)
    (number : FiniteBinary64) : String :=
  let sign := if number.negative then "-" else ""
  if number.isZero then sign ++ "0.0" else sign ++ format.decimalText number.shortest

end DecimalFormat

/-- The text of a finite number in the plain format. -/
def FiniteBinary64.text (number : FiniteBinary64) : String :=
  plainFormat.finiteText number

namespace Binary64

/-- The text of a number in the plain format; what is not finite is named. -/
def text : Binary64 → String
  | .nan => "nan"
  | .infinite true => "-inf"
  | .infinite false => "inf"
  | .finite number => number.text

end Binary64

end ExpertAdvisor
