import ExpertAdvisor.Json.Wire
import ExpertAdvisor.Payload.Fault
import ExpertAdvisor.Service.Message
import ExpertAdvisor.Text.SourceEncoding
import ExpertAdvisor.Value.Unpaired

namespace ExpertAdvisor.Service

/-!
# Refusals

A request whose body is not valid is refused with all its faults, and each fault
shows the value that is wrong, without the fields that count as internal.  A
value that cannot be shown makes the refusal itself fail: numbers that are not
finite, texts with halves of surrogate pairs, and bytes that are no text.  Here
too values may be nested to any depth.
-/

/-- A failure that no operation foresees, with its class and words. -/
structure Failure where
  className : String
  message : String
  deriving Repr, DecidableEq

/-- The failure to show a number that is not finite. -/
def Failure.outOfRange : Failure :=
  ⟨"ValueError", "Out of range float values are not JSON compliant"⟩

/-- A half of a surrogate pair as the failure to encode it names it. -/
def Failure.halfEscape : Text.CodePoint → String
  | .half unit => "\\u" ++ Number.hexText 4 unit
  | .character content => String.singleton content

/--
The failure to encode a text with halves of surrogate pairs.  It names the first
of them, or the positions of the first run of more than one.
-/
def Failure.unencodable (text : List Text.CodePoint) : Failure :=
  let position := (text.takeWhile Text.CodePoint.isCharacter).length
  let run := (text.drop position).takeWhile fun point => !point.isCharacter
  let subject :=
    match run with
    | [point] =>
        "character '" ++ halfEscape point ++ "' in position " ++ Number.naturalText position
    | _ =>
        "characters in position " ++ Number.naturalText position ++ "-" ++
          Number.naturalText (position + run.length - 1)
  ⟨"UnicodeEncodeError",
    "'utf-8' codec can't encode " ++ subject ++ ": surrogates not allowed"⟩

/-- The characters with which the names of internal fields begin. -/
def internalStart : List Text.CodePoint :=
  Text.codePoints ['_', 's', 'a']

/-- Whether a field of this name is internal. -/
def isInternal (name : List Text.CodePoint) : Bool :=
  internalStart.isPrefixOf name

mutual

/-- A value without its internal fields. -/
def withoutInternal : Value → Value
  | .list items => .list (itemsWithoutInternal items)
  | .record fields => .record (fieldsWithoutInternal fields)
  | .misnamed names values =>
      .ofDistinctFields ((names.zip (itemsWithoutInternal values)).filter fun field =>
        !isInternal field.1)
  | value => value

/-- List items without their internal fields. -/
def itemsWithoutInternal : List Value → List Value
  | [] => []
  | item :: rest => withoutInternal item :: itemsWithoutInternal rest

/-- Record fields without the internal ones among them and inside their values. -/
def fieldsWithoutInternal : List (String × Value) → List (String × Value)
  | [] => []
  | (name, value) :: rest =>
      if isInternal (Text.codePoints name.toList) then fieldsWithoutInternal rest
      else (name, withoutInternal value) :: fieldsWithoutInternal rest

end

/-- Whether a value is no number that is not finite. -/
def isFiniteHere : Value → Bool
  | .real number => number.isFinite
  | _ => true

/-- A faulty value as it is shown; bytes are shown as text. -/
def shownInput (input : Value) : Except Failure Value :=
  match input with
  | .bytes content =>
      match Text.decodePlainText content with
      | .ok decoded => .ok (.text decoded)
      | .error fault => .error ⟨"UnicodeDecodeError", fault.message⟩
  | other => .ok (withoutInternal other)

/-- A fault as a refusal tells it, with its value as it is shown. -/
def faultRecord
    (fault : Fault)
    (input : Value) : Record :=
  [("type", .text fault.problem.code),
    ("loc", .list (fault.path.map Step.toValue)),
    ("msg", .text fault.problem.message),
    ("input", input)] ++
  match fault.problem.context with
  | [] => []
  | context => [("ctx", .record context)]

/-- What a refusal says, around the faults that it tells. -/
def refusalRecord (told : List Value) : Record :=
  [("status", .text "error"), ("detail", .text "Request validation failed"),
    ("errors", .list told)]

/-- Refuses a request for its faults, or fails because one of them cannot be shown. -/
def refusal (faults : List Fault) : Except Failure Response := do
  let told ← faults.mapM fun fault => do
    let input ← shownInput fault.input
    return Value.record (faultRecord fault input)
  if !Value.allItems isFiniteHere told then
    .error Failure.outOfRange
  else if !Value.allItems Value.isPairedHere told then
    .error (Failure.unencodable (Json.wire (.record (refusalRecord told))))
  else
    return .json 422 (refusalRecord told)

/-- What stands in place of code where none could be generated. -/
def codePlaceholder : String :=
  "// Conversion failed. Check the console for details."

/-- The response to a request that cannot be converted. -/
def conversionRefusal (message : String) : Response :=
  .json 422
    [("status", .text "error"), ("detail", .text message), ("code", .text codePlaceholder)]

/-- The response to a failure that no operation foresees. -/
def failureResponse : Response :=
  .json 500 [("status", .text "error"), ("detail", .text "Internal server error")]

/-- The response to a body that cannot be decoded. -/
def undecodableResponse : Response :=
  .detail 400 "There was an error parsing the body"

end ExpertAdvisor.Service
