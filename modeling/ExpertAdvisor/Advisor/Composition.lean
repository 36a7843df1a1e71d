import ExpertAdvisor.Advisor.Scaffold
import ExpertAdvisor.Indicator.CarriedType
import ExpertAdvisor.Indicator.Declaration
import ExpertAdvisor.Payload.Validation

namespace ExpertAdvisor

/-!
# Composition

An expert advisor is composed from a payload and the parameters that it carries
over.  Composition fails as a whole or yields a complete text: it fails where a
payload is not valid, or where a carried parameter has a name that the expert
advisor declares itself.
-/

open Advisor

/-- Why no expert advisor is composed. -/
inductive CompositionFault where
  | unknownKind (given : Value)
  | mismatchedStrategy (kind : StrategyKind)
  | invalidPayload (fault : Fault) (more : List Fault)
  | notRecord (kindName : String)
  | reservedNames (names : List String)
  deriving DecidableEq, Repr

namespace CompositionFault

/-- The class of a fault, as errors name it. -/
def className : CompositionFault → String
  | .unknownKind _ => "UnknownLogicKindError"
  | _ => "ConversionError"

/-- A fault in words. -/
def message : CompositionFault → String
  | .unknownKind given =>
      "Unknown logic kind " ++ given.literal ++
        "; expected one of: crossover, threshold, custom"
  | .mismatchedStrategy kind =>
      "logic_config for kind " ++ Text.quoted kind.name ++ " must be a " ++
        Strategy.modelName kind
  | .invalidPayload fault more =>
      "Invalid conversion payload: " ++ Fault.report Payload.modelName (fault :: more)
  | .notRecord kindName =>
      "payload must be a ConversionPayload or mapping, got " ++ kindName
  | .reservedNames names =>
      "Indicator inputs clash with identifiers the generated EA declares: " ++
        ", ".intercalate names ++ ". Rename them in the indicator before converting."

end CompositionFault

namespace Parameter

/-- The names of parameters that the expert advisor declares itself, in order. -/
def clashes (parameters : List Parameter) : List String :=
  (names parameters).filter fun name => reservedNames.contains name

/-- The input that a carried parameter becomes, with its default as it was read. -/
def carriedInput (parameter : Parameter) : Input :=
  .plain (Indicator.carriedType parameter) parameter.name parameter.default

end Parameter

namespace Payload

/-- The inputs that set the risk of a payload's trades. -/
def risk (payload : Payload) : List Input :=
  riskInputs (finiteLiteral payload.lots.val) (Number.integerText payload.slippage)
    (Number.naturalText payload.stopLoss) (Number.naturalText payload.takeProfit)
    (Number.integerText payload.magicNumber)

/-- The scaffold of a payload that carries the given parameters. -/
def scaffold
    (payload : Payload)
    (parameters : List Parameter) : Scaffold where
  indicatorName := payload.indicatorName.text
  timeframe := payload.timeframe.text
  risk := payload.risk
  carried := parameters.map Parameter.carriedInput
  fragment := payload.strategy.fragment

/-- The parameters that a payload carries: those given, or those of its indicator. -/
def effectiveParameters
    (payload : Payload)
    (given : Option (List Parameter)) : List Parameter :=
  given.getD (Indicator.parameters payload.indicatorCode)

/-- Composes an expert advisor that carries the given parameters. -/
def composeWith
    (payload : Payload)
    (parameters : List Parameter) : Except CompositionFault String :=
  match Parameter.clashes parameters with
  | [] => .ok (payload.scaffold parameters).text
  | name :: more => .error (.reservedNames (name :: more))

/--
The text of the expert advisor for a payload, with the given parameters or its
indicator's own.
-/
def compose
    (payload : Payload)
    (given : Option (List Parameter)) : Except CompositionFault String :=
  payload.composeWith (payload.effectiveParameters given)

end Payload

namespace Composition

/-- The strategy that a record gives under either spelling, camel case first. -/
def givenStrategy? (record : Record) : Option Value :=
  (Record.get? record Field.logicConfig.camel).or (Record.get? record Field.logicConfig.snake)

/-- Refuses a strategy record whose kind is not one of those known. -/
def checkKind (record : Record) : Except CompositionFault Unit :=
  match (givenStrategy? record).bind Value.namedFields? with
  | some strategy =>
      let given := (Record.get? strategy "kind").getD .null
      if (Strategy.selectedKind? given).isSome then .ok () else .error (.unknownKind given)
  | none => .ok ()

/-- The payload that a value holds; its strategy's kind is looked at before everything else. -/
def payloadOf (value : Value) : Except CompositionFault Payload :=
  match value.namedFields? with
  | some record => do
      checkKind record
      match Payload.ofValue value with
      | .accepted payload => .ok payload
      | .refused fault more => .error (.invalidPayload fault more)
  | none => .error (.notRecord value.kindName)

/-- Composes an expert advisor from a value that must be a payload. -/
def ofValue
    (value : Value)
    (given : Option (List Parameter)) : Except CompositionFault String := do
  let payload ← payloadOf value
  payload.compose given

/-- The log entry of a composition, which tells how much was composed. -/
def entry
    (indicatorName kind : Value)
    (parameterCount : Nat)
    (code : String) : Entry where
  severity := .info
  module := "converter.code_generator"
  event := "ea_generated"
  fields := [("indicator", indicatorName), ("logic_kind", kind),
    ("parameters", .integer parameterCount), ("length", .integer code.length)]

/-- The journal of a composition: the extraction, where there is one, and the result. -/
def journal
    (payload : Payload)
    (given : Option (List Parameter)) : List Entry :=
  (if given.isNone then Indicator.journal payload.indicatorCode else []) ++
    match payload.compose given with
    | .ok code =>
        [entry (.text payload.indicatorName.text) (.text payload.strategy.kind.name)
          (payload.effectiveParameters given).length code]
    | .error _ => []

/-- The log entries of the composition of a dynamic value; none where it is no valid payload. -/
def journalOfValue
    (value : Value)
    (given : Option (List Parameter)) : List Entry :=
  match payloadOf value with
  | .ok payload => journal payload given
  | .error _ => []

end Composition

end ExpertAdvisor
