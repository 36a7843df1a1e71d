import ExpertAdvisor.Advisor.Draft
import ExpertAdvisor.Payload.Dump
import ExpertAdvisor.Proofs.Advisor.Outcomes
import ExpertAdvisor.Proofs.Advisor.ScaffoldLines

namespace ExpertAdvisor

open Advisor

/-!
# Drafts of valid payloads

Composition works on drafts, whose fields may be missing or of any kind, and it
fails in many ways.  On a draft that was made from a payload none of these
failures can occur: the kind fits the class, every field is there, numbers are
finite, and what is written into the text is a text.
-/

namespace Advisor

/-- Changes the buffers that a statement reads. -/
def Statement.map
    (change : Buffer → OtherBuffer) :
    Statement Buffer → Statement OtherBuffer
  | .readSeries name buffer shift => .readSeries name (change buffer) shift
  | .leaveIfEmpty names => .leaveIfEmpty names
  | .noteHeld side => .noteHeld side
  | .define signal conditions => .define signal conditions
  | .react reactions => .react reactions
  | .remark text => .remark text
  | .gap => .gap

/-- Statements are written with the text of the buffers that they read. -/
theorem Statement.body_map
    (change : Buffer → OtherBuffer)
    (bufferText : OtherBuffer → String)
    (statements : List (Statement Buffer)) :
    body bufferText (statements.map (map change)) =
      body (fun buffer => bufferText (change buffer)) statements := by
  have sameLines (statement : Statement Buffer) :
      (statement.map change).lines bufferText =
        statement.lines fun buffer => bufferText (change buffer) := by
    cases statement <;> rfl
  rw [body, body, List.flatMap_map]
  simp only [sameLines]

/-- What a crossover strategy does depends on its buffers only where it reads them. -/
theorem Tick.map_crossover
    (change : Buffer → OtherBuffer)
    (fast slow : Buffer)
    (stacking reversed : Bool) :
    (Tick.crossover fast slow stacking reversed).map (Statement.map change) =
      Tick.crossover (change fast) (change slow) stacking reversed := by
  cases stacking <;> cases reversed <;> rfl

/-- What a threshold strategy does depends on its buffer only where it reads it. -/
theorem Tick.map_threshold
    (change : Buffer → OtherBuffer)
    (buffer : Buffer)
    (sides : List Side)
    (directionName : String)
    (stacking : Bool) :
    (Tick.threshold buffer sides directionName stacking).map (Statement.map change) =
      Tick.threshold (change buffer) sides directionName stacking := by
  rw [Tick.threshold, Tick.threshold]
  cases stacking <;> split <;> simp [Tick.noteHeldSides, Statement.map, Function.comp_def]

end Advisor

theorem Value.display_natural (number : Nat) :
    Value.display (.integer number) = Number.naturalText number := by
  rw [display_integer, Number.integerText, if_neg (by omega), Int.natAbs_natCast]

namespace Draft

/-- The direction of a strategy; without levels to watch it does not matter. -/
def directionOf : Strategy → BreachDirection
  | .threshold settings => settings.direction
  | _ => .band

/-- A payload as a draft, with the fields of the payload and of its strategy. -/
def ofPayload (payload : Payload) : Draft where
  strategyClass := some payload.strategy.kind
  strategy := (payload.strategy.toRecord .snake).filter fun field =>
    field.1 != Field.direction.snake
  payload := payload.toRecord .snake
  direction := directionOf payload.strategy

variable (payload : Payload) (given : Option (List Parameter))

/-- The kind of a payload's strategy is known and fits its class. -/
theorem kind_ofPayload : (ofPayload payload).kind = .ok payload.strategy.kind := by
  have told : (ofPayload payload).givenKind = .text payload.strategy.kind.name := by
    cases shape : payload.strategy <;> simp [givenKind, ofPayload, shape] <;> rfl
  have selected : Strategy.selectedKind? (.text payload.strategy.kind.name) =
      some payload.strategy.kind := by
    rw [Strategy.selectedKind?]
    exact (StrategyKind.ofName?_eq_some_iff _ _).mpr rfl
  rw [kind, told]
  simp only [selected]
  exact if_pos rfl

theorem parameters_ofPayload :
    (ofPayload payload).parameters given = .ok (payload.effectiveParameters given) := by
  cases given <;> rfl

theorem risk_ofPayload : (ofPayload payload).risk = .ok payload.risk := by
  have lots : (ofPayload payload).payloadField "lots" = .ok payload.lots.val.toValue := rfl
  have slippage : (ofPayload payload).payloadField "slippage" = .ok (.integer payload.slippage) :=
    rfl
  have stopLoss : (ofPayload payload).payloadField "stop_loss" = .ok (.integer payload.stopLoss) :=
    rfl
  have takeProfit :
      (ofPayload payload).payloadField "take_profit" = .ok (.integer payload.takeProfit) := rfl
  have magicNumber :
      (ofPayload payload).payloadField "magic_number" = .ok (.integer payload.magicNumber) := rfl
  rw [risk, lots, slippage, stopLoss, takeProfit, magicNumber, Payload.risk,
    ← Value.display_integer, ← Value.display_integer, ← Value.display_natural,
    ← Value.display_natural]
  rfl

/-- What a level adds to a payload's draft is the literal of the level, where it is watched. -/
theorem levelLiteral_ofOption
    (watched : Bool)
    (level : Option FiniteBinary64) :
    levelLiteral watched (.ofOption FiniteBinary64.toValue level) =
      .ok ((if watched then level else none).map finiteLiteral) := by
  cases watched <;> cases level <;> rfl

section Fragments

variable {payload}

/-- A natural number as the value of a field. -/
abbrev naturalValue (number : Nat) : Value := .integer number

/-- The body of a tick that reads natural numbers is the same when they are given as values. -/
theorem body_naturalValue (statements : List (Statement Nat)) :
    Statement.body Value.display (statements.map (Statement.map naturalValue)) =
      Statement.body Number.naturalText statements := by
  rw [Statement.body_map]
  simp only [naturalValue, Value.display_natural]

theorem crossoverFragment_ofPayload
    {settings : CrossoverStrategy}
    (isCrossover : payload.strategy = .crossover settings) :
    (ofPayload payload).crossoverFragment = .ok (Strategy.crossover settings).fragment := by
  have fields :
      (ofPayload payload).strategyField .crossover "fast_buffer" =
          .ok (naturalValue settings.fastBuffer) ∧
        (ofPayload payload).strategyField .crossover "slow_buffer" =
          .ok (naturalValue settings.slowBuffer) ∧
        (ofPayload payload).strategyField .crossover "allow_multiple_positions" =
          .ok (.boolean settings.stacking) ∧
        (ofPayload payload).strategyField .crossover "reverse_signal" =
          .ok (.boolean settings.reversed) := by
    simp only [ofPayload, isCrossover]
    exact ⟨rfl, rfl, rfl, rfl⟩
  obtain ⟨fast, slow, stacking, reversed⟩ := fields
  rw [crossoverFragment, fast, slow, stacking, reversed]
  simp only [Outcome.ok_bind, Value.isTruthy, ← Tick.map_crossover naturalValue,
    body_naturalValue]
  rfl

theorem thresholdFragment_ofPayload
    {settings : ThresholdStrategy}
    (isThreshold : payload.strategy = .threshold settings) :
    (ofPayload payload).thresholdFragment = .ok (Strategy.threshold settings).fragment := by
  have fields :
      (ofPayload payload).strategyField .threshold "buffer" =
          .ok (naturalValue settings.buffer) ∧
        (ofPayload payload).strategyField .threshold "upper" =
          .ok (.ofOption FiniteBinary64.toValue settings.upper) ∧
        (ofPayload payload).strategyField .threshold "lower" =
          .ok (.ofOption FiniteBinary64.toValue settings.lower) ∧
        (ofPayload payload).strategyField .threshold "allow_multiple_positions" =
          .ok (.boolean settings.stacking) := by
    simp only [ofPayload, isThreshold]
    exact ⟨rfl, rfl, rfl, rfl⟩
  have directions :
      (ofPayload payload).direction? = some settings.direction ∧
        (ofPayload payload).directionName = .ok settings.direction.name := by
    simp only [ofPayload, isThreshold]
    exact ⟨rfl, rfl⟩
  obtain ⟨buffer, upper, lower, stacking⟩ := fields
  obtain ⟨direction, directionName⟩ := directions
  have upperLiteral :
      levelLiteral settings.direction.watchesUpper
          (.ofOption FiniteBinary64.toValue settings.upper) =
        .ok (settings.watchedUpper.map finiteLiteral) := levelLiteral_ofOption _ _
  have lowerLiteral :
      levelLiteral settings.direction.watchesLower
          (.ofOption FiniteBinary64.toValue settings.lower) =
        .ok (settings.watchedLower.map finiteLiteral) := levelLiteral_ofOption _ _
  have body (sides : List Side) (name : String) :
      Statement.body Value.display
          (Tick.threshold (naturalValue settings.buffer) sides name settings.stacking) =
        Statement.body Number.naturalText
          (Tick.threshold settings.buffer sides name settings.stacking) := by
    rw [← Tick.map_threshold naturalValue, body_naturalValue]
  rw [thresholdFragment, buffer, upper, lower, stacking, direction, directionName]
  simp only [Outcome.ok_bind, Option.any_some, upperLiteral, lowerLiteral, Value.isTruthy, body,
    Strategy.fragment, ThresholdStrategy.inputs, ThresholdStrategy.tick, ThresholdStrategy.sides]
  -- The direction is named only where no level is watched.
  cases settings.watchedUpper <;> cases settings.watchedLower <;> rfl

end Fragments

/-- What the strategy of a payload's draft adds is what the payload's strategy adds. -/
theorem fragment_ofPayload :
    ∃ fragment,
      (ofPayload payload).fragment payload.strategy.kind =
        .ok (fragment, .text payload.strategy.fragment.body) ∧
      fragment.inputs = payload.strategy.fragment.inputs := by
  cases shape : payload.strategy with
  | crossover settings =>
      refine ⟨(Strategy.crossover settings).fragment, ?_, rfl⟩
      rw [Strategy.kind, fragment, crossoverFragment_ofPayload shape]
      rfl
  | threshold settings =>
      refine ⟨(Strategy.threshold settings).fragment, ?_, rfl⟩
      rw [Strategy.kind, fragment, thresholdFragment_ofPayload shape]
      rfl
  | custom snippet =>
      refine ⟨⟨[], ""⟩, ?_, rfl⟩
      simp only [ofPayload, shape]
      rfl

/-- The draft of a payload has the scaffold of the payload. -/
theorem scaffold_ofPayload (parameters : List Parameter) :
    (ofPayload payload).scaffold payload.strategy.kind parameters =
      .ok (payload.scaffold parameters) := by
  have name : (ofPayload payload).payloadField "indicator_name" =
      .ok (.text payload.indicatorName.text) := rfl
  have timeframe : (ofPayload payload).payloadField "timeframe_expression" =
      .ok (.text payload.timeframe.text) := rfl
  obtain ⟨fragment, found, sameInputs⟩ := fragment_ofPayload payload
  rw [scaffold, found, name, timeframe, risk_ofPayload]
  simp only [Outcome.ok_bind, indicatorText, pieceOf, Payload.scaffold, sameInputs]
  rfl

/-- A payload's draft is composed like the payload. -/
theorem composeWith_ofPayload :
    (ofPayload payload).composeWith given =
      (payload.compose given).mapError DraftFault.refused := by
  rw [composeWith, kind_ofPayload, parameters_ofPayload, Payload.compose, Payload.composeWith]
  simp only [Outcome.ok_bind, scaffold_ofPayload]
  cases Parameter.clashes (payload.effectiveParameters given) <;> rfl

end Draft

/--
Composing a valid payload yields a complete text, its sections set apart by
empty lines, or it is refused for reserved names; no other failure of a draft
occurs.  It is refused exactly where a carried parameter has a reserved name,
and then the fault lists these names in the order of the parameters.
-/
theorem compose_valid_payload
    (payload : Payload)
    (given : Option (List Parameter)) :
    (Draft.ofPayload payload).composeWith given =
      (payload.compose given).mapError DraftFault.refused ∧
    ((∃ fault, payload.compose given = .error fault) ↔
      ∃ parameter ∈ given.getD (Indicator.parameters payload.indicatorCode),
        parameter.name ∈ reservedNames) ∧
    (∀ fault, payload.compose given = .error fault →
      fault.className = "ConversionError" ∧
      fault.message =
        "Indicator inputs clash with identifiers the generated EA declares: " ++
          ", ".intercalate
            (((given.getD (Indicator.parameters payload.indicatorCode)).map Parameter.name).filter
              fun name => name ∈ reservedNames) ++
          ". Rename them in the indicator before converting.") ∧
    (∀ code, payload.compose given = .ok code →
      code.toList =
        Indicator.linesText ([""].intercalate
          (payload.scaffold
            (given.getD (Indicator.parameters payload.indicatorCode))).sections)) := by
  refine ⟨Draft.composeWith_ofPayload payload given, ?_, fun fault failed => ?_,
    fun code composed => ?_⟩
  · rw [← Parameter.clashes_ne_nil_iff]
    simp only [Payload.compose, Payload.composeWith_eq_error_iff]
    exact ⟨fun ⟨_, clashing, _⟩ => clashing, fun clashing => ⟨_, clashing, rfl⟩⟩
  · obtain ⟨_, rfl⟩ := Payload.composeWith_eq_error_iff.mp failed
    rw [← Parameter.clashes_eq_filter]
    exact ⟨rfl, rfl⟩
  · obtain ⟨_, rfl⟩ := Payload.composeWith_eq_ok_iff.mp composed
    exact Scaffold.toList_text _

end ExpertAdvisor
