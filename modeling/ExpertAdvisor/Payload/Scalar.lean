import ExpertAdvisor.Number.Numeral
import ExpertAdvisor.Payload.Checked
import ExpertAdvisor.Strategy.Basic
import ExpertAdvisor.Text.SourceEncoding
import ExpertAdvisor.Value.Literal

namespace ExpertAdvisor.Scalar

/-!
# Reading single values

A field accepts every value that stands for one of its own kind without loss:
numerals in text, flags as numbers or words, bytes as the text they encode.  A
text with halves of surrogate pairs is accepted only where nothing is asked of
texts, and stand-ins are then read in place of the halves.
-/

/-- Reads a text, of which nothing is asked. -/
def text (value : Value) : Checked String :=
  match value with
  | .text content => .accepted content
  | .unpaired content => .accepted (Text.standingIn content)
  | .bytes content =>
      match Text.decodePlainText content with
      | .ok decoded => .accepted decoded
      | .error _ => .fail .undecodableText value
  | _ => .fail .notText value

/-- Reads a text that consists of characters. -/
def pairedText (value : Value) : Checked String :=
  match value with
  | .unpaired _ => .fail .undecodableText value
  | _ => text value

/-- Reads a text that is not empty. -/
def filledText (value : Value) : Checked String :=
  (pairedText value).andThen fun content =>
    if content == "" then .fail .emptyText value else .accepted content

/-- The words in a text or in bytes that encode one; no other value has words. -/
def words? : Value → Option (Option String)
  | .text content => some (some content)
  | .bytes content => some (Text.decodePlainText content).toOption
  | _ => none

/-- How many digits an integer numeral may have. -/
def digitLimit : Nat := 4300

/-- The magnitude below which a number without a fraction is taken for an integer. -/
def integerBound : Int := 9223372036854775808

/-- Reads an integer written in words. -/
def integerOfWords
    (value : Value)
    (words : Option String) : Checked Int :=
  match words.bind fun content => Number.integralNumeral? Text.asciiDigit? content.toList with
  | none => .fail .unreadableInteger value
  | some number =>
      if digitLimit < Number.decimalLength number.natAbs then
        .fail .oversizedInteger value
      else
        .accepted number

/-- Reads an integer from a number, which must have no fraction and must not be too large. -/
def integerOfReal
    (value : Value)
    (number : Binary64) : Checked Int :=
  match number.finite? with
  | none => .fail .notFinite value
  | some finite =>
      if !finite.isIntegral then .fail .fractionalInteger value
      else if -integerBound < finite.truncated ∧ finite.truncated < integerBound then
        .accepted finite.truncated
      else .fail .oversizedInteger value

/-- Reads an integer. -/
def integer (value : Value) : Checked Int :=
  match value with
  | .integer number => .accepted number
  | .boolean flag => .accepted (if flag then 1 else 0)
  | .real number => integerOfReal value number
  | .unpaired _ => .fail .undecodableText value
  | _ =>
      match words? value with
      | some words => integerOfWords value words
      | none => .fail .notInteger value

/-- Reads an integer that is not negative. -/
def natural (value : Value) : Checked Nat :=
  (integer value).andThen fun number =>
    if number < 0 then .fail .negative value else .accepted number.toNat

/-- Reads a number, finite or not. -/
def real (value : Value) : Checked Binary64 :=
  match value with
  | .real number => .accepted number
  | .boolean flag => .accepted (.ofInt (if flag then 1 else 0))
  | .integer number =>
      if (Binary64.ofInt number).isFinite then .accepted (.ofInt number)
      else .fail .notNumber value
  | .unpaired _ => .fail .undecodableText value
  | _ =>
      match words? value with
      | none => .fail .notNumber value
      | some words =>
          match words.bind fun content => Number.real? Text.asciiDigit? content.toList with
          | some number => .accepted number
          | none => .fail .unreadableNumber value

/-- Reads a finite number. -/
def finiteNumber (value : Value) : Checked FiniteBinary64 :=
  (real value).andThen fun number =>
    match number.finite? with
    | some finite => .accepted finite
    | none => .fail .notFinite value

/-- Reads a finite number greater than zero. -/
def positiveNumber
    (value : Value) : Checked { number : FiniteBinary64 // number.isPositive = true } :=
  (finiteNumber value).andThen fun number =>
    if positive : number.isPositive = true then .accepted ⟨number, positive⟩
    else .fail .notPositive value

/-- The flag that a word stands for, in letters of either case. -/
def flagOfWord? (word : String) : Option Bool :=
  let lowered := String.ofList (word.toList.map Char.toLower)
  if ["0", "off", "f", "false", "n", "no"].contains lowered then some false
  else if ["1", "on", "t", "true", "y", "yes"].contains lowered then some true
  else none

/-- Whether an integer fits into 64 bits with a sign. -/
def isWordSized (number : Int) : Bool :=
  -integerBound ≤ number && number < integerBound

/-- Reads a flag. -/
def flag (value : Value) : Checked Bool :=
  match value with
  | .boolean given => .accepted given
  | .unpaired _ => .fail .undecodableText value
  | .integer number =>
      if number = 0 then .accepted false
      else if number = 1 then .accepted true
      else if isWordSized number then .fail .unreadableFlag value
      else .fail .notFlag value
  | .real number =>
      match number.finite? with
      | none => .fail .notFlag value
      | some finite =>
          if !finite.isIntegral then .fail .notFlag value
          else if finite.truncated = 0 then .accepted false
          else if finite.truncated = 1 then .accepted true
          else .fail .notFlag value
  | _ =>
      match words? value with
      | none => .fail .notFlag value
      | some words =>
          match words.bind flagOfWord? with
          | some given => .accepted given
          | none => .fail .unreadableFlag value

/-- Reads a value that may be null. -/
def optional
    (read : Value → Checked α)
    (value : Value) : Checked (Option α) :=
  if value.isNull then .accepted none else (read value).map some

/-- Reads the name of a direction. -/
def direction (value : Value) : Checked BreachDirection :=
  match value with
  | .unpaired _ => .fail .undecodableText value
  | _ =>
      match (words? value).join.bind BreachDirection.ofName? with
      | some found => .accepted found
      | none => .fail .unknownDirection value

/-- Reads the name of the one kind that is expected. -/
def kindOf
    (expected : StrategyKind)
    (value : Value) : Checked Unit :=
  match value with
  | .text given =>
      if given == expected.name then .accepted () else .fail (.wrongKind expected.name) value
  | .unpaired _ => .fail .undecodableText value
  | _ => .fail (.wrongKind expected.name) value

/-- Reads a list, each of its items by the same check. -/
def items
    (read : Value → Checked α)
    (value : Value) : Checked (List α) :=
  match value with
  | .list content => Checked.itemsFrom read 0 content
  | _ => .fail .notList value

end ExpertAdvisor.Scalar
