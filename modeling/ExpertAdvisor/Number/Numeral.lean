import ExpertAdvisor.Number.Binary64
import ExpertAdvisor.Text.Blank
import ExpertAdvisor.Text.DecimalDigit

namespace ExpertAdvisor.Number

/-!
# Reading numerals

A numeral may be padded with white space and may carry single underscores
between its digits.  The readers differ in which digits they know: values typed
into a form may use the digits of any script, payload fields and command
options use ASCII.
-/

/-- The digits that a reader knows, with their values. -/
abbrev DigitReader := Char → Option Nat

/-- Whether the next character is a digit. -/
def startsWithDigit
    (digit? : DigitReader) :
    List Char → Bool
  | [] => false
  | character :: _ => (digit? character).isSome

/-- Reads digits with single underscores between them, after those already read in reverse. -/
def digitRun
    (digit? : DigitReader)
    (read : List Nat) :
    List Char → List Nat × List Char
  | [] => (read.reverse, [])
  | character :: rest =>
      match digit? character with
      | some digit => digitRun digit? (digit :: read) rest
      | none =>
          if character == '_' && !read.isEmpty && startsWithDigit digit? rest then
            digitRun digit? read rest
          else
            (read.reverse, character :: rest)

/-- Splits a leading sign off; the flag says whether it is a minus. -/
def splitSign : List Char → Bool × List Char
  | '-' :: rest => (true, rest)
  | '+' :: rest => (false, rest)
  | characters => (false, characters)

/-- The integer with a sign and a magnitude. -/
def withSign
    (negative : Bool)
    (magnitude : Nat) : Int :=
  if negative then -(magnitude : Int) else magnitude

/-- Reads the exponent that may end a numeral. -/
def exponent?
    (digit? : DigitReader) :
    List Char → Option Int
  | [] => some 0
  | marker :: rest =>
      if marker == 'e' || marker == 'E' then
        let (negative, unsigned) := splitSign rest
        match digitRun digit? [] unsigned with
        | (digit :: digits, []) => some (withSign negative (valueOf 10 (digit :: digits)))
        | _ => none
      else
        none

/-- Reads an unsigned decimal: digits with a point among or around them, and an exponent. -/
def unsignedReal?
    (digit? : DigitReader)
    (negative : Bool)
    (characters : List Char) : Option Binary64 :=
  let (whole, rest) := digitRun digit? [] characters
  let (fraction, ending) :=
    match rest with
    | '.' :: afterPoint => digitRun digit? [] afterPoint
    | other => ([], other)
  if whole.isEmpty && fraction.isEmpty then
    none
  else
    (exponent? digit? ending).map fun exponent =>
      Binary64.ofDecimal negative (valueOf 10 (whole ++ fraction)) (exponent - fraction.length)

/-- Reads a named number: infinity or not a number, in letters of either case. -/
def namedReal?
    (negative : Bool)
    (characters : List Char) : Option Binary64 :=
  let name := String.ofList (characters.map Char.toLower)
  if name == "inf" || name == "infinity" then some (.infinite negative)
  else if name == "nan" then some .nan
  else none

/-- The number that a text is read as, blanks around it left out; it may be named or be infinite. -/
def real?
    (digit? : DigitReader)
    (characters : List Char) : Option Binary64 :=
  let (negative, unsigned) := splitSign (Text.trimWhere Text.isWhiteSpace characters)
  match namedReal? negative unsigned with
  | some number => some number
  | none => unsignedReal? digit? negative unsigned

/-- The integer that a text is read as, blanks around it left out. -/
def integer?
    (digit? : DigitReader)
    (characters : List Char) : Option Int :=
  let (negative, unsigned) := splitSign (Text.trimWhere Text.isWhiteSpace characters)
  match digitRun digit? [] unsigned with
  | (digit :: digits, []) => some (withSign negative (valueOf 10 (digit :: digits)))
  | _ => none

/-- Reads an integer numeral that may end in a point and zeros. -/
def integralNumeral?
    (digit? : DigitReader)
    (characters : List Char) : Option Int :=
  let (negative, unsigned) := splitSign (Text.trimWhere Text.isWhiteSpace characters)
  match digitRun digit? [] unsigned with
  | (digit :: digits, ending) =>
      let integer := withSign negative (valueOf 10 (digit :: digits))
      match ending with
      | [] => some integer
      | '.' :: first :: zeros => if (first :: zeros).all (· == '0') then some integer else none
      | _ => none
  | ([], _) => none

end ExpertAdvisor.Number
