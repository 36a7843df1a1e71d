import ExpertAdvisor.Indicator.Parameter
import ExpertAdvisor.Payload.Basic
import ExpertAdvisor.Payload.Field
import ExpertAdvisor.Payload.Scalar

namespace ExpertAdvisor

/-!
# Validating documents

A document is checked field by field in a fixed order; every fault is reported,
and after the fields come the keys that belong to no field.  A fault in a field
is reported under the key that the document used, and a missing field under its
camel-case name.
-/

namespace FieldName

/-- Checks a field that the given document, of which these are the fields, may not leave out. -/
def requiredOf
    (document : Value)
    (name : FieldName)
    (check : Value → Checked α)
    (record : Record) : Checked α :=
  match name.found? record with
  | some (key, value) => (check value).under (.key key)
  | none => .refused ⟨[.key name.camel], .missing, document⟩ []

/-- Checks a field that a record may not leave out. -/
def required
    (name : FieldName)
    (check : Value → Checked α)
    (record : Record) : Checked α :=
  requiredOf (.record record) name check record

/-- Checks a field that has a meaning also where a document leaves it out. -/
def optional
    (name : FieldName)
    (check : Value → Checked α)
    (absent : α)
    (record : Record) : Checked α :=
  match name.found? record with
  | some (key, value) => (check value).under (.key key)
  | none => .accepted absent

/-- One fault for every entry that gives none of the fields. -/
def strayFaults
    (names : List FieldName)
    (record : Record) : List Fault :=
  (strayEntries names record).map fun entry => ⟨[.key entry.1], .unknownField, entry.2⟩

end FieldName

/--
Checks a document that must be a record, which a message calls by its model's
name.  The model forbids fields that it does not know, and a misnamed one is
refused before it could be asked whether it does.
-/
def Checked.model
    (model : String)
    (check : Record → Checked α)
    (value : Value) : Checked α :=
  match value with
  | .record fields => check fields
  | .misnamed names _ => .fail .undecodableText (.unpaired (Misnamed.firstMisname names))
  | _ => .fail (.notModel model) value

/--
Checks a document that must be a record, by a model that ignores fields it does
not know, misnamed ones among them.
-/
def Checked.openModel
    (model : String)
    (check : Value → Record → Checked α)
    (value : Value) : Checked α :=
  match value.namedFields? with
  | some fields => check value fields
  | none => .fail (.notModel model) value

namespace Parameter

/-- The fields of a parameter. -/
def fieldNames : List FieldName :=
  [Field.name, Field.defaultValue, Field.mqlType]

/-- Checks the fields of a parameter; no other fields may be given. -/
def ofRecord (record : Record) : Checked Parameter :=
  Checked.withFaults
    ((Field.name.required Scalar.filledText record).map Parameter.mk
      |>.and (Field.defaultValue.required Scalar.text record)
      |>.and (Field.mqlType.optional (Scalar.optional Scalar.text) none record))
    (FieldName.strayFaults fieldNames record)

/-- Checks a value that must be a parameter. -/
def ofValue (value : Value) : Checked Parameter :=
  Checked.model "IndicatorParameter" ofRecord value

end Parameter

namespace CrossoverStrategy

/-- The fields of a crossover strategy. -/
def fieldNames : List FieldName :=
  [Field.kind, Field.fastBuffer, Field.slowBuffer, Field.allowMultiplePositions,
    Field.reverseSignal]

/-- Checks the fields of a crossover strategy. -/
def ofRecord (record : Record) : Checked CrossoverStrategy :=
  Checked.withFaults
    ((Field.kind.optional (Scalar.kindOf .crossover) () record).map (fun _ => CrossoverStrategy.mk)
      |>.and (Field.fastBuffer.optional Scalar.natural 0 record)
      |>.and (Field.slowBuffer.optional Scalar.natural 1 record)
      |>.and (Field.allowMultiplePositions.optional Scalar.flag false record)
      |>.and (Field.reverseSignal.optional Scalar.flag false record))
    (FieldName.strayFaults fieldNames record)

end CrossoverStrategy

namespace ThresholdStrategy

/-- The fields of a threshold strategy. -/
def fieldNames : List FieldName :=
  [Field.kind, Field.buffer, Field.upper, Field.lower, Field.direction,
    Field.allowMultiplePositions]

/-- Checks the fields of a threshold strategy. -/
def ofRecord (record : Record) : Checked ThresholdStrategy :=
  Checked.withFaults
    ((Field.kind.optional (Scalar.kindOf .threshold) () record).map (fun _ => ThresholdStrategy.mk)
      |>.and (Field.buffer.optional Scalar.natural 0 record)
      |>.and (Field.upper.optional (Scalar.optional Scalar.finiteNumber) none record)
      |>.and (Field.lower.optional (Scalar.optional Scalar.finiteNumber) none record)
      |>.and (Field.direction.optional Scalar.direction .band record)
      |>.and (Field.allowMultiplePositions.optional Scalar.flag false record))
    (FieldName.strayFaults fieldNames record)

end ThresholdStrategy

namespace Strategy

/-- The fields of a custom strategy. -/
def customFieldNames : List FieldName :=
  [Field.kind, Field.snippet]

/-- Checks the fields of a custom strategy, which is its snippet. -/
def snippetOfRecord (record : Record) : Checked String :=
  Checked.withFaults
    ((Field.kind.optional (Scalar.kindOf .custom) () record).map (fun _ snippet => snippet)
      |>.and (Field.snippet.required Scalar.text record))
    (FieldName.strayFaults customFieldNames record)

/-- The name of the model for a kind of strategy. -/
def modelName : StrategyKind → String
  | .crossover => "CrossoverLogic"
  | .threshold => "ThresholdLogic"
  | .custom => "CustomLogic"

/-- Checks the fields of a strategy of a kind. -/
def ofRecord
    (kind : StrategyKind)
    (record : Record) : Checked Strategy :=
  match kind with
  | .crossover => (CrossoverStrategy.ofRecord record).map .crossover
  | .threshold => (ThresholdStrategy.ofRecord record).map .threshold
  | .custom => (snippetOfRecord record).map .custom

/-- Checks a value that must be a strategy of a kind. -/
def ofValueOfKind
    (kind : StrategyKind)
    (value : Value) : Checked Strategy :=
  Checked.model (modelName kind) (ofRecord kind) value

/-- The kind that a value selects; only texts select one. -/
def selectedKind? (value : Value) : Option StrategyKind :=
  value.text?.bind StrategyKind.ofName?

/-- Checks a strategy whose kind the document itself tells. -/
def ofValue (value : Value) : Checked Strategy :=
  match value.namedFields? with
  | some fields =>
      match Record.get? fields "kind" with
      | none => .fail .missingKind value
      | some given =>
          match selectedKind? given with
          | some kind => (ofValueOfKind kind value).under (.key kind.name)
          | none => .fail (.unknownKind given.display) value
  | none => .fail .notRecord value

/-- A record is checked as the kind that it names asks for. -/
theorem ofValue_record (fields : Record) :
    ofValue (.record fields) =
      match Record.get? fields "kind" with
      | none => .fail .missingKind (.record fields)
      | some given =>
          match selectedKind? given with
          | some kind => (ofRecord kind fields).under (.key kind.name)
          | none => .fail (.unknownKind given.display) (.record fields) := rfl

end Strategy

namespace Payload

/-- Reads an indicator's name, which must not be blank and must print. -/
def indicatorNameOf (value : Value) : Checked IndicatorName :=
  (Scalar.filledText value).andThen fun content =>
    if blank : Text.isAllBlank content = true then
      .fail .blank value
    else if printable : content.toList.all Text.isPrintable = true then
      .accepted ⟨content, by simpa using blank, printable⟩
    else
      .fail .unprintable value

/-- Reads a timeframe, which must not be blank. -/
def timeframeOf (value : Value) : Checked Timeframe :=
  (Scalar.filledText value).andThen fun content =>
    if blank : Text.isAllBlank content = true then
      .fail .blank value
    else
      .accepted ⟨content, by simpa using blank⟩

/-- The fields of a payload. -/
def fieldNames : List FieldName :=
  [Field.indicatorName, Field.indicatorCode, Field.timeframeExpression, Field.lots,
    Field.slippage, Field.stopLoss, Field.takeProfit, Field.magicNumber, Field.logicConfig]

/-- The name by which messages call a payload's model. -/
def modelName : String := "ConversionPayload"

/-- Checks the fields of a payload, each with its default where it has one. -/
def ofRecord (record : Record) : Checked Payload :=
  Checked.withFaults
    ((Field.indicatorName.required indicatorNameOf record).map Payload.mk
      |>.and (Field.indicatorCode.optional Scalar.text "" record)
      |>.and (Field.timeframeExpression.optional timeframeOf chartTimeframe record)
      |>.and (Field.lots.optional Scalar.positiveNumber tenthOfLot record)
      |>.and (Field.slippage.optional Scalar.integer standardSlippage record)
      |>.and (Field.stopLoss.optional Scalar.natural 0 record)
      |>.and (Field.takeProfit.optional Scalar.natural 0 record)
      |>.and (Field.magicNumber.optional Scalar.integer standardMagicNumber record)
      |>.and (Field.logicConfig.required Strategy.ofValue record))
    (FieldName.strayFaults fieldNames record)

/-- Checks a value that must be a payload. -/
def ofValue (value : Value) : Checked Payload :=
  Checked.model modelName ofRecord value

end Payload

end ExpertAdvisor
