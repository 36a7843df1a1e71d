import ExpertAdvisor.Indicator.Parameter
import ExpertAdvisor.Payload.Basic
import ExpertAdvisor.Payload.Field

namespace ExpertAdvisor

/-!
# Writing documents

A document is written as a record in either spelling of its field names.  Every
field is written; only the declared type of a parameter, which serves the
composition alone, is left out.
-/

/-- A record of fields, their names spelled in one way. -/
def FieldName.write
    (spelling : Spelling)
    (fields : List (FieldName × Value)) : Record :=
  fields.map fun field => (field.1.spelled spelling, field.2)

/-- A finite number as a value. -/
def FiniteBinary64.toValue (number : FiniteBinary64) : Value :=
  .real (.finite number)

namespace Parameter

/-- A parameter as a record; its declared type is not written. -/
def toRecord
    (spelling : Spelling)
    (parameter : Parameter) : Record :=
  FieldName.write spelling
    [(Field.name, .text parameter.name), (Field.defaultValue, .text parameter.default)]

/-- A parameter as a value. -/
def toValue
    (spelling : Spelling)
    (parameter : Parameter) : Value :=
  .record (toRecord spelling parameter)

/-- Parameters as a list of records. -/
def listToValue
    (spelling : Spelling)
    (parameters : List Parameter) : Value :=
  .list (parameters.map (toValue spelling))

end Parameter

namespace Strategy

/-- A strategy as a record that begins with its kind. -/
def toRecord
    (spelling : Spelling)
    (strategy : Strategy) : Record :=
  FieldName.write spelling <|
    (Field.kind, .text strategy.kind.name) ::
      match strategy with
      | .crossover settings =>
          [(Field.fastBuffer, .integer settings.fastBuffer),
            (Field.slowBuffer, .integer settings.slowBuffer),
            (Field.allowMultiplePositions, .boolean settings.stacking),
            (Field.reverseSignal, .boolean settings.reversed)]
      | .threshold settings =>
          [(Field.buffer, .integer settings.buffer),
            (Field.upper, .ofOption FiniteBinary64.toValue settings.upper),
            (Field.lower, .ofOption FiniteBinary64.toValue settings.lower),
            (Field.direction, .text settings.direction.name),
            (Field.allowMultiplePositions, .boolean settings.stacking)]
      | .custom snippet => [(Field.snippet, .text snippet)]

end Strategy

namespace Payload

/-- A payload as a record with all of its fields. -/
def toRecord
    (spelling : Spelling)
    (payload : Payload) : Record :=
  FieldName.write spelling
    [(Field.indicatorName, .text payload.indicatorName.text),
      (Field.indicatorCode, .text payload.indicatorCode),
      (Field.timeframeExpression, .text payload.timeframe.text),
      (Field.lots, payload.lots.val.toValue),
      (Field.slippage, .integer payload.slippage),
      (Field.stopLoss, .integer payload.stopLoss),
      (Field.takeProfit, .integer payload.takeProfit),
      (Field.magicNumber, .integer payload.magicNumber),
      (Field.logicConfig, .record (payload.strategy.toRecord spelling))]

end Payload

end ExpertAdvisor
