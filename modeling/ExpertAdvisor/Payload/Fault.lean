import ExpertAdvisor.Number.Digits
import ExpertAdvisor.Value.Basic

namespace ExpertAdvisor

/-!
# Validation faults

A fault says where in a document a value stands, what is wrong with it, and the
value itself.
-/

/-- One step on the way from a document to a value in it. -/
inductive Step where
  | key (name : String)
  | index (position : Nat)
  deriving Repr, DecidableEq

namespace Step

/-- A step as reports of faults write it. -/
def text : Step → String
  | .key name => name
  | .index position => Number.naturalText position

/-- A step as refusals show it. -/
def toValue : Step → Value
  | .key name => .text name
  | .index position => .integer position

end Step

/-- What can be wrong with a value. -/
inductive Problem where
  | missing
  | unknownField
  | notText
  | undecodableText
  | emptyText
  | notInteger
  | unreadableInteger
  | oversizedInteger
  | fractionalInteger
  | notFinite
  | notNumber
  | unreadableNumber
  | notPositive
  | negative
  | notFlag
  | unreadableFlag
  | unknownDirection
  | wrongKind (expected : String)
  | notList
  | notModel (model : String)
  | notRecord
  | missingKind
  | unknownKind (shown : String)
  | blank
  | unprintable
  | frozen
  | unreadableDocument (complaint : String)
  deriving Repr, DecidableEq

namespace Problem

/-- The directions as a message lists them. -/
def expectedDirections : String := "'above', 'below' or 'band'"

/-- The kinds as a message lists them. -/
def expectedKinds : String := "'crossover', 'threshold', 'custom'"

/-- What a text that must not be blank is told. -/
def blankRule : String := "must not be blank"

/-- What a value with characters that do not print must not contain. -/
def printableRule : String := "must not contain line breaks or control characters"

/-- The name of a problem's class. -/
def code : Problem → String
  | .missing => "missing"
  | .unknownField => "extra_forbidden"
  | .notText => "string_type"
  | .undecodableText => "string_unicode"
  | .emptyText => "string_too_short"
  | .notInteger => "int_type"
  | .unreadableInteger => "int_parsing"
  | .oversizedInteger => "int_parsing_size"
  | .fractionalInteger => "int_from_float"
  | .notFinite => "finite_number"
  | .notNumber => "float_type"
  | .unreadableNumber => "float_parsing"
  | .notPositive => "greater_than"
  | .negative => "greater_than_equal"
  | .notFlag => "bool_type"
  | .unreadableFlag => "bool_parsing"
  | .unknownDirection => "enum"
  | .wrongKind _ => "literal_error"
  | .notList => "list_type"
  | .notModel _ => "model_type"
  | .notRecord => "model_attributes_type"
  | .missingKind => "union_tag_not_found"
  | .unknownKind _ => "union_tag_invalid"
  | .blank | .unprintable => "value_error"
  | .frozen => "frozen_instance"
  | .unreadableDocument _ => "json_invalid"

/-- A problem in words. -/
def message : Problem → String
  | .missing => "Field required"
  | .unknownField => "Extra inputs are not permitted"
  | .notText => "Input should be a valid string"
  | .undecodableText =>
      "Input should be a valid string, unable to parse raw data as a unicode string"
  | .emptyText => "String should have at least 1 character"
  | .notInteger => "Input should be a valid integer"
  | .unreadableInteger =>
      "Input should be a valid integer, unable to parse string as an integer"
  | .oversizedInteger =>
      "Unable to parse input string as an integer, exceeded maximum size"
  | .fractionalInteger =>
      "Input should be a valid integer, got a number with a fractional part"
  | .notFinite => "Input should be a finite number"
  | .notNumber => "Input should be a valid number"
  | .unreadableNumber => "Input should be a valid number, unable to parse string as a number"
  | .notPositive => "Input should be greater than 0"
  | .negative => "Input should be greater than or equal to 0"
  | .notFlag => "Input should be a valid boolean"
  | .unreadableFlag => "Input should be a valid boolean, unable to interpret input"
  | .unknownDirection => "Input should be " ++ expectedDirections
  | .wrongKind expected => "Input should be '" ++ expected ++ "'"
  | .notList => "Input should be a valid list"
  | .notModel model => "Input should be a valid dictionary or instance of " ++ model
  | .notRecord => "Input should be a valid dictionary or object to extract fields from"
  | .missingKind => "Unable to extract tag using discriminator 'kind'"
  | .unknownKind shown =>
      "Input tag '" ++ shown ++
        "' found using 'kind' does not match any of the expected tags: " ++ expectedKinds
  | .blank => "Value error, " ++ blankRule
  | .unprintable => "Value error, " ++ printableRule
  | .frozen => "Instance is frozen"
  | .unreadableDocument _ => "JSON decode error"

/-- The particulars of a problem, when it has any. -/
def context : Problem → Record
  | .emptyText => [("min_length", .integer 1)]
  | .notPositive => [("gt", .real (.finite (FiniteBinary64.zero false)))]
  | .negative => [("ge", .integer 0)]
  | .unknownDirection => [("expected", .text expectedDirections)]
  | .wrongKind expected => [("expected", .text ("'" ++ expected ++ "'"))]
  | .notModel model => [("class_name", .text model)]
  | .missingKind => [("discriminator", .text "'kind'")]
  | .unknownKind shown =>
      [("discriminator", .text "'kind'"), ("tag", .text shown),
        ("expected_tags", .text expectedKinds)]
  | .blank => [("error", .text blankRule)]
  | .unprintable => [("error", .text printableRule)]
  | .unreadableDocument complaint => [("error", .text complaint)]
  | _ => []

end Problem

/-- A problem with a value and the path to it. -/
structure Fault where
  path : List Step
  problem : Problem
  input : Value
  deriving DecidableEq, Repr

namespace Fault

/-- A fault in a document that is found in a larger one. -/
def under
    (step : Step)
    (fault : Fault) : Fault :=
  { fault with path := step :: fault.path }

/-- The path as one text, its steps joined by points. -/
def pathText (fault : Fault) : String :=
  ".".intercalate (fault.path.map Step.text)

/-- The path, the problem in words and its class, on two lines. -/
def summary (fault : Fault) : String :=
  fault.pathText ++ "\n  " ++ fault.problem.message ++ " [type=" ++ fault.problem.code ++ "]"

/--
Faults of a model as one text: their number, then each on two lines.  What the
validation library adds of its own is left out: behind the class the literal of
the faulty value, cut where it is long, with its kind, and on a third line the
address of the page on which this release of the library explains the problem.
-/
def report
    (model : String)
    (faults : List Fault) : String :=
  let count := Number.naturalText faults.length
  let noun := if faults.length == 1 then " validation error for " else " validation errors for "
  "\n".intercalate ((count ++ noun ++ model) :: faults.map summary)

end Fault

end ExpertAdvisor
