import ExpertAdvisor.Number.Numeral
import ExpertAdvisor.Value.Basic
import ExpertAdvisor.Yaml.Timestamp

namespace ExpertAdvisor.Yaml

/-!
# What plain scalars mean

A plain scalar is a flag, a number, a moment, nothing or a text, depending on how
it is spelled.  A real numeral has a point; integers may be binary, octal,
hexadecimal, or written in groups of sixty.
-/

/-- The values of the flag words, written small, capitalised or in capitals. -/
def flagWords : List (String × Bool) :=
  [("yes", true), ("Yes", true), ("YES", true), ("no", false), ("No", false), ("NO", false),
    ("true", true), ("True", true), ("TRUE", true),
    ("false", false), ("False", false), ("FALSE", false),
    ("on", true), ("On", true), ("ON", true), ("off", false), ("Off", false), ("OFF", false)]

/-- The flag that a word stands for. -/
def flag? (word : String) : Option Bool :=
  (flagWords.find? fun listed => listed.1 == word).map Prod.snd

/-- The words for null. -/
def nullWords : List String :=
  ["", "~", "null", "Null", "NULL"]

/-- The digits of a numeral in a base; underscores between them count for nothing. -/
def digits?
    (base : Nat)
    (characters : List Char) : Option (List Nat) :=
  (characters.filter (· != '_')).mapM fun character =>
    (Number.hexDigit? character).filter (· < base)

/-- The value of a numeral in a base that has at least one digit. -/
def natural?
    (base : Nat)
    (characters : List Char) : Option Nat :=
  match digits? base characters with
  | some (digit :: more) => some (Number.valueOf base (digit :: more))
  | _ => none

/-- The value of a decimal numeral that begins with a digit other than zero. -/
def leadingNatural? (characters : List Char) : Option Nat :=
  match characters with
  | first :: _ => if first.isDigit && first != '0' then natural? 10 characters else none
  | [] => none

/-- Cuts characters at every colon. -/
def colonParts (characters : List Char) : List (List Char) :=
  characters.splitOn ':'

/-- The value of a group of sixty: one or two digits below sixty. -/
def sixtieth? (characters : List Char) : Option Nat :=
  if characters.all Char.isDigit && characters.length ≤ 2 then
    (natural? 10 characters).filter (· < 60)
  else
    none

/-- The value of groups of sixty, the first of which may be any number. -/
def sixties?
    (first : Nat)
    (groups : List (List Char)) : Option Nat :=
  groups.foldl
    (fun total? group => do return (← total?) * 60 + (← sixtieth? group))
    (some first)

/-- The value of an integer numeral without its sign. -/
def unsignedInteger? : List Char → Option Nat
  | ['0'] => some 0
  | '0' :: 'b' :: digits => natural? 2 digits
  | '0' :: 'x' :: digits => natural? 16 digits
  | '0' :: digits => natural? 8 ('0' :: digits)
  | characters =>
      match colonParts characters with
      | [whole] => leadingNatural? whole
      | whole :: groups => leadingNatural? whole >>= fun first => sixties? first groups
      | [] => none

/-- The integer that a plain scalar is, with or without a sign, in any of its bases. -/
def integer? (characters : List Char) : Option Int :=
  let (negative, unsigned) := Number.splitSign characters
  (unsignedInteger? unsigned).map (Number.withSign negative)

/-- The exponent that may end a real numeral; its sign is written. -/
def exponent? : List Char → Option Int
  | [] => some 0
  | marker :: sign :: digit :: digits =>
      if (marker == 'e' || marker == 'E') && (sign == '+' || sign == '-') &&
          (digit :: digits).all Char.isDigit then
        (natural? 10 (digit :: digits)).map (Number.withSign (sign == '-'))
      else
        none
  | _ => none

/-- Whether a character is a digit or the mark between digits. -/
def isDigitOrUnderscore (character : Char) : Bool :=
  character.isDigit || character == '_'

/-- The number with the given digits before and after its point. -/
def pointed?
    (negative : Bool)
    (whole afterPoint : List Char) : Option Binary64 := do
  let (fraction, ending) := afterPoint.span isDigitOrUnderscore
  let wholeDigits ← digits? 10 whole
  let fractionDigits ← digits? 10 fraction
  let exponent ← exponent? ending
  return .ofDecimal negative (Number.valueOf 10 (wholeDigits ++ fractionDigits))
    (exponent - fractionDigits.length)

/-- The number with the given groups of sixty before its point. -/
def pointedSixties?
    (negative : Bool)
    (whole : List Char)
    (groups : List (List Char))
    (afterPoint : List Char) : Option Binary64 := do
  let first ← natural? 10 whole
  let total ← sixties? first groups
  let fractionDigits ← digits? 10 afterPoint
  return .ofDecimal negative (Number.valueFrom 10 total fractionDigits)
    (-(fractionDigits.length : Int))

/-- The value of a numeral that begins with a digit and has a point. -/
def unsignedReal?
    (negative : Bool)
    (characters : List Char) : Option Binary64 :=
  match characters.span (· != '.') with
  | (first :: more, '.' :: afterPoint) =>
      if first.isDigit then
        match colonParts (first :: more) with
        | [whole] => pointed? negative whole afterPoint
        | whole :: groups => pointedSixties? negative whole groups afterPoint
        | [] => none
      else
        none
  | _ => none

/-- The infinite number that a word names. -/
def infinity?
    (negative : Bool)
    (characters : List Char) : Option Binary64 :=
  if [".inf", ".Inf", ".INF"].contains (String.ofList characters) then
    some (.infinite negative)
  else
    none

/-- The value of a real numeral that begins with its point. -/
def pointFirst? : List Char → Option Binary64
  | '.' :: digit :: rest => if digit.isDigit then pointed? false [] (digit :: rest) else none
  | _ => none

/-- The number with a fraction that a plain scalar is: a name, a decimal or a sexagesimal. -/
def real? (characters : List Char) : Option Binary64 :=
  let (negative, unsigned) := Number.splitSign characters
  if [".nan", ".NaN", ".NAN"].contains (String.ofList characters) then some .nan
  else
    (infinity? negative unsigned).or
      ((unsignedReal? negative unsigned).or (pointFirst? characters))

/-- The value of a moment, which the calendar must have. -/
def momentValue? (moment : Moment) : Option Value :=
  if moment.occurs then some (.moment moment) else none

/--
The value of a plain scalar.  The merge and default signs have none, and neither
has a moment that the calendar does not have.
-/
def plainValue? (content : String) : Option Value :=
  let characters := content.toList
  if content == "<<" || content == "=" then none
  else if nullWords.contains content then some .null
  else
    match flag? content, real? characters, integer? characters, plainMoment? characters with
    | some flag, _, _, _ => some (.boolean flag)
    | none, some number, _, _ => some (.real number)
    | none, none, some number, _ => some (.integer number)
    | none, none, none, some moment => momentValue? moment
    | none, none, none, none => some (.text content)

end ExpertAdvisor.Yaml
