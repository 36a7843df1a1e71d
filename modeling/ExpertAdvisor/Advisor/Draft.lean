import ExpertAdvisor.Advisor.Composition
import ExpertAdvisor.Value.Real

namespace ExpertAdvisor

/-!
# Drafts

A draft is a payload that nobody validated: its fields hold any values, its
strategy is an object of any class, and fields may be missing.  Composition
checks the strategy's kind and class before anything else; what it needs later
and does not find in a usable form makes it fail.  Texts may hold halves of
surrogate pairs, for which the composed text has stand-ins.
-/

open Advisor

/-- Why no expert advisor is composed from a draft. -/
inductive DraftFault where
  | refused (fault : CompositionFault)
  | unhashableKind (kindName : String)
  | sourceNotText (kindName : String)
  | missingMember (owner member : String)
  | argumentNotBytes
  | argumentNotInteger
  | unreadableNumber (fault : RealFault)
  | pieceNotText (position : Nat) (kindName : String)
  deriving DecidableEq, Repr

namespace DraftFault

/-- The class under which a fault is known. -/
def className : DraftFault → String
  | .refused fault => fault.className
  | .unreadableNumber fault => fault.className
  | .missingMember _ _ => "AttributeError"
  | .unhashableKind _ | .sourceNotText _ | .argumentNotBytes | .argumentNotInteger
  | .pieceNotText _ _ => "TypeError"

/-- A fault in words. -/
def message : DraftFault → String
  | .refused fault => fault.message
  | .unhashableKind kindName => "unhashable type: '" ++ kindName ++ "'"
  | .sourceNotText kindName => "indicator source must be str, got " ++ kindName
  | .missingMember owner member =>
      "'" ++ owner ++ "' object has no attribute '" ++ member ++ "'"
  | .argumentNotBytes => "a bytes-like object is required, not 'str'"
  | .argumentNotInteger => "'str' object cannot be interpreted as an integer"
  | .unreadableNumber fault => fault.message
  | .pieceNotText position kindName =>
      "sequence item " ++ Number.naturalText position ++ ": expected str instance, " ++
        kindName ++ " found"

end DraftFault

/--
A payload and its strategy with any values; the strategy's class is one of those
known or none.  A threshold strategy has a proper direction of its own, which
counts unless its fields give another value.
-/
structure Draft where
  strategyClass : Option StrategyKind
  strategy : Record
  payload : Record
  direction : BreachDirection := .band
  deriving DecidableEq, Repr

namespace Draft

/-- The values of fields that a strategy of a class has without being given them. -/
def strategyDefaults : Option StrategyKind → Record
  | none => []
  | some .crossover =>
      [("kind", .text "crossover"), ("fast_buffer", .integer 0), ("slow_buffer", .integer 1),
        ("allow_multiple_positions", .boolean false), ("reverse_signal", .boolean false)]
  | some .threshold =>
      [("kind", .text "threshold"), ("buffer", .integer 0), ("upper", .null), ("lower", .null),
        ("allow_multiple_positions", .boolean false)]
  | some .custom => [("kind", .text "custom")]

/-- The values of fields that a payload has without being given them. -/
def payloadDefaults : Record :=
  [("indicator_code", .text ""), ("timeframe_expression", .text Payload.chartTimeframe.text),
    ("lots", .real (.finite Payload.tenthOfLot.val)),
    ("slippage", .integer Payload.standardSlippage), ("stop_loss", .integer 0),
    ("take_profit", .integer 0), ("magic_number", .integer Payload.standardMagicNumber)]

/-- A field's value: the one given, or the one that the field has by itself. -/
def field?
    (defaults given : Record)
    (name : String) : Option Value :=
  (Record.get? given name).or (Record.get? defaults name)

/-- The field of the payload with a name: as it was drafted, or by its default. -/
def payloadField
    (draft : Draft)
    (name : String) : Except DraftFault Value :=
  match field? payloadDefaults draft.payload name with
  | some value => .ok value
  | none => .error (.missingMember Payload.modelName name)

/-- A field of a strategy whose class is known. -/
def strategyField
    (draft : Draft)
    (kind : StrategyKind)
    (name : String) : Except DraftFault Value :=
  match field? (strategyDefaults (some kind)) draft.strategy name with
  | some value => .ok value
  | none => .error (.missingMember (Strategy.modelName kind) name)

/-- The kind that a draft's strategy tells; a strategy without one tells null. -/
def givenKind (draft : Draft) : Value :=
  (field? (strategyDefaults draft.strategyClass) draft.strategy "kind").getD .null

/-- The kind of a draft's strategy, which must be known and must fit the strategy's class. -/
def kind (draft : Draft) : Except DraftFault StrategyKind :=
  match draft.givenKind with
  | .list _ | .record _ | .misnamed _ _ =>
      .error (.unhashableKind draft.givenKind.kindName)
  | given =>
      match Strategy.selectedKind? given with
      | none => .error (.refused (.unknownKind given))
      | some kind =>
          if draft.strategyClass = some kind then .ok kind
          else .error (.refused (.mismatchedStrategy kind))

/-- The parameters that a draft carries: those given, or those of its indicator. -/
def parameters
    (draft : Draft)
    (given : Option (List Parameter)) : Except DraftFault (List Parameter) :=
  match given with
  | some parameters => .ok parameters
  | none => do
      let code ← draft.payloadField "indicator_code"
      match code.shownText? with
      | some source => .ok (Indicator.parameters source)
      | none => .error (.sourceNotText code.kindName)

/-- The literal of the number that a value stands for. -/
def literalOf (value : Value) : Except DraftFault String :=
  match value.toReal with
  | .ok number => .ok (doubleLiteral number)
  | .error fault => .error (.unreadableNumber fault)

/-- A value as a piece of text, which stands at a position among others. -/
def pieceOf
    (position : Nat)
    (value : Value) : Except DraftFault String :=
  match value.shownText? with
  | some content => .ok content
  | none => .error (.pieceNotText position value.kindName)

/-- What a crossover strategy adds to the scaffold. -/
def crossoverFragment (draft : Draft) : Except DraftFault Fragment := do
  let fast ← draft.strategyField .crossover "fast_buffer"
  let slow ← draft.strategyField .crossover "slow_buffer"
  let stacking ← draft.strategyField .crossover "allow_multiple_positions"
  let reversed ← draft.strategyField .crossover "reverse_signal"
  return ⟨[], Statement.body Value.display
    (Tick.crossover fast slow stacking.isTruthy reversed.isTruthy)⟩

/-- The value that a threshold strategy's fields give as its direction. -/
def givenDirection? (draft : Draft) : Option Value :=
  Record.get? draft.strategy "direction"

/-- The direction of a threshold strategy, when what is given names one. -/
def direction? (draft : Draft) : Option BreachDirection :=
  match draft.givenDirection? with
  | none => some draft.direction
  | some given => given.text?.bind BreachDirection.ofName?

/-- The literal of a level, when the level is set and watched. -/
def levelLiteral
    (watched : Bool)
    (level : Value) : Except DraftFault (Option String) :=
  if watched && !level.isNull then (literalOf level).map some else .ok none

/-- The name of the direction in a remark, which only a proper direction has. -/
def directionName (draft : Draft) : Except DraftFault String :=
  match draft.givenDirection? with
  | none => .ok draft.direction.name
  | some given => .error (.missingMember given.kindName "value")

/--
What a drafted threshold strategy adds: an input for each level that it watches,
and its tick.
-/
def thresholdFragment (draft : Draft) : Except DraftFault Fragment := do
  let direction := draft.direction?
  let upper ← draft.strategyField .threshold "upper"
  let upperLiteral ← levelLiteral (direction.any BreachDirection.watchesUpper) upper
  let lower ← draft.strategyField .threshold "lower"
  let lowerLiteral ← levelLiteral (direction.any BreachDirection.watchesLower) lower
  let buffer ← draft.strategyField .threshold "buffer"
  let stacking ← draft.strategyField .threshold "allow_multiple_positions"
  let sides :=
    (if upperLiteral.isSome then [Side.buy] else []) ++
      (if lowerLiteral.isSome then [Side.sell] else [])
  let name ← if sides.isEmpty then draft.directionName else .ok ""
  let inputs :=
    (upperLiteral.map (Tick.boundInput .upper)).toList ++
      (lowerLiteral.map (Tick.boundInput .lower)).toList
  return ⟨inputs, Statement.body Value.display
    (Tick.threshold buffer sides name stacking.isTruthy)⟩

/-- The place of the body among the pieces of the tick function. -/
def bodyPosition : Nat := 2

/-- The place of the timeframe among the arguments with which the indicator is called. -/
def timeframePosition : Nat := 1

/-- What the strategy of a kind adds, and a snippet that need not be a text. -/
def fragment
    (draft : Draft) :
    StrategyKind → Except DraftFault (Fragment × Value)
  | .crossover => do
      let fragment ← draft.crossoverFragment
      return (fragment, .text fragment.body)
  | .threshold => do
      let fragment ← draft.thresholdFragment
      return (fragment, .text fragment.body)
  | .custom => do
      let snippet ← draft.strategyField .custom "snippet"
      return (⟨[], ""⟩, snippet)

/-- The inputs that set the risk, from fields that nothing has checked. -/
def risk (draft : Draft) : Except DraftFault (List Input) := do
  let lots ← literalOf (← draft.payloadField "lots")
  let slippage ← draft.payloadField "slippage"
  let stopLoss ← draft.payloadField "stop_loss"
  let takeProfit ← draft.payloadField "take_profit"
  let magicNumber ← draft.payloadField "magic_number"
  return riskInputs lots slippage.display stopLoss.display takeProfit.display magicNumber.display

/--
The name of a draft's indicator, which must be a text to become a literal.  Bytes
and moments can replace parts of themselves too, but no texts in them.
-/
def indicatorText (name : Value) : Except DraftFault String :=
  match name with
  | .text content => .ok content
  | .unpaired content => .ok (Text.standingIn content)
  | .bytes _ => .error .argumentNotBytes
  | .moment _ => .error .argumentNotInteger
  | other => .error (.missingMember other.kindName "replace")

/-- The parts of the expert advisor for a draft, its fields written as they are. -/
def scaffold
    (draft : Draft)
    (kind : StrategyKind)
    (parameters : List Parameter) : Except DraftFault Scaffold := do
  let (fragment, body) ← draft.fragment kind
  let name ← draft.payloadField "indicator_name"
  let risk ← draft.risk
  let indicatorName ← indicatorText name
  let timeframe ← pieceOf timeframePosition (← draft.payloadField "timeframe_expression")
  let bodyText ← pieceOf bodyPosition body
  return {
    indicatorName := indicatorName
    timeframe := timeframe
    risk := risk
    carried := parameters.map Parameter.carriedInput
    fragment := { fragment with body := bodyText } }

/-- Composes an expert advisor from a draft that carries the given parameters. -/
def composeWith
    (draft : Draft)
    (given : Option (List Parameter)) : Except DraftFault String := do
  let kind ← draft.kind
  let parameters ← draft.parameters given
  match Parameter.clashes parameters with
  | [] => return (← draft.scaffold kind parameters).text
  | name :: more => .error (.refused (.reservedNames (name :: more)))

/-- The text of the expert advisor for a draft, with the parameters of its indicator. -/
def compose (draft : Draft) : Except DraftFault String :=
  draft.composeWith none

/-- What the composition of a draft tells on its way. -/
def journal (draft : Draft) : List Entry :=
  match draft.kind, (draft.payloadField "indicator_code").toOption.bind Value.shownText? with
  | .ok kind, some source =>
      Indicator.journal source ++
        match draft.compose, draft.payloadField "indicator_name" with
        | .ok code, .ok name =>
            [Composition.entry name (.text kind.name) (Indicator.parameters source).length code]
        | _, _ => []
  | _, _ => []

end Draft

end ExpertAdvisor
