import ExpertAdvisor.Payload.Dump
import ExpertAdvisor.Proofs.Advisor.Outcomes

namespace ExpertAdvisor

/-!
# Accepted documents

A document is accepted when each of its fields is and nothing else stands in it.
A payload that is written down, under either spelling, is accepted again as the
same payload.
-/

namespace FieldName

variable {name : FieldName} {check : Value → Checked α} {record : Record} {key : String}
  {given : Value} {value absent : α}

/-- There are faults for stray entries exactly where there are stray entries. -/
theorem strayFaults_eq_nil_iff
    {names : List FieldName} :
    strayFaults names record = [] ↔ strayEntries names record = [] :=
  List.map_eq_nil_iff

/-- A given field is accepted when its value is. -/
theorem required_eq_accepted_iff
    {document : Value}
    (found : name.found? record = some (key, given)) :
    requiredOf document name check record = .accepted value ↔ check given = .accepted value := by
  rw [requiredOf, found]
  exact Checked.under_eq_accepted_iff

/-- An optional field that is given is accepted when its value is. -/
theorem optional_eq_accepted_iff (found : name.found? record = some (key, given)) :
    name.optional check absent record = .accepted value ↔ check given = .accepted value := by
  rw [optional, found]
  exact Checked.under_eq_accepted_iff

end FieldName

/-! What the parts of an accepted document are. -/

/-- An accepted crossover strategy has each of its fields accepted, and no others. -/
theorem CrossoverStrategy.ofRecord_eq_accepted_iff
    {record : Record}
    {settings : CrossoverStrategy} :
    ofRecord record = .accepted settings ↔
      Field.kind.optional (Scalar.kindOf .crossover) () record = .accepted () ∧
      Field.fastBuffer.optional Scalar.natural 0 record = .accepted settings.fastBuffer ∧
      Field.slowBuffer.optional Scalar.natural 1 record = .accepted settings.slowBuffer ∧
      Field.allowMultiplePositions.optional Scalar.flag false record =
        .accepted settings.stacking ∧
      Field.reverseSignal.optional Scalar.flag false record = .accepted settings.reversed ∧
      FieldName.strayEntries fieldNames record = [] := by
  simp only [ofRecord, Checked.withFaults_eq_accepted_iff, FieldName.strayFaults_eq_nil_iff,
    Checked.and_eq_accepted_iff, Checked.map_eq_accepted_iff]
  constructor
  · rintro ⟨⟨_, _, ⟨_, _, ⟨_, _, ⟨_, _, ⟨_, kind, rfl⟩, fast, rfl⟩, slow, rfl⟩, stacking, rfl⟩,
      reversed, rfl⟩, noStrays⟩
    exact ⟨kind, fast, slow, stacking, reversed, noStrays⟩
  · rintro ⟨kind, fast, slow, stacking, reversed, noStrays⟩
    exact ⟨⟨_, _, ⟨_, _, ⟨_, _, ⟨_, _, ⟨_, kind, rfl⟩, fast, rfl⟩, slow, rfl⟩, stacking, rfl⟩,
      reversed, rfl⟩, noStrays⟩

theorem ThresholdStrategy.ofRecord_eq_accepted_iff
    {record : Record}
    {settings : ThresholdStrategy} :
    ofRecord record = .accepted settings ↔
      Field.kind.optional (Scalar.kindOf .threshold) () record = .accepted () ∧
      Field.buffer.optional Scalar.natural 0 record = .accepted settings.buffer ∧
      Field.upper.optional (Scalar.optional Scalar.finiteNumber) none record =
        .accepted settings.upper ∧
      Field.lower.optional (Scalar.optional Scalar.finiteNumber) none record =
        .accepted settings.lower ∧
      Field.direction.optional Scalar.direction .band record = .accepted settings.direction ∧
      Field.allowMultiplePositions.optional Scalar.flag false record =
        .accepted settings.stacking ∧
      FieldName.strayEntries fieldNames record = [] := by
  simp only [ofRecord, Checked.withFaults_eq_accepted_iff, FieldName.strayFaults_eq_nil_iff,
    Checked.and_eq_accepted_iff, Checked.map_eq_accepted_iff]
  constructor
  · rintro ⟨⟨_, _, ⟨_, _, ⟨_, _, ⟨_, _, ⟨_, _, ⟨_, kind, rfl⟩, buffer, rfl⟩, upper, rfl⟩, lower,
      rfl⟩, direction, rfl⟩, stacking, rfl⟩, noStrays⟩
    exact ⟨kind, buffer, upper, lower, direction, stacking, noStrays⟩
  · rintro ⟨kind, buffer, upper, lower, direction, stacking, noStrays⟩
    exact ⟨⟨_, _, ⟨_, _, ⟨_, _, ⟨_, _, ⟨_, _, ⟨_, kind, rfl⟩, buffer, rfl⟩, upper, rfl⟩, lower,
      rfl⟩, direction, rfl⟩, stacking, rfl⟩, noStrays⟩

theorem Strategy.snippetOfRecord_eq_accepted_iff
    {record : Record}
    {snippet : String} :
    snippetOfRecord record = .accepted snippet ↔
      Field.kind.optional (Scalar.kindOf .custom) () record = .accepted () ∧
      Field.snippet.required Scalar.text record = .accepted snippet ∧
      FieldName.strayEntries customFieldNames record = [] := by
  simp only [snippetOfRecord, Checked.withFaults_eq_accepted_iff,
    FieldName.strayFaults_eq_nil_iff, Checked.and_eq_accepted_iff, Checked.map_eq_accepted_iff]
  constructor
  · rintro ⟨⟨_, _, ⟨_, kind, rfl⟩, text, rfl⟩, noStrays⟩
    exact ⟨kind, text, noStrays⟩
  · rintro ⟨kind, text, noStrays⟩
    exact ⟨⟨_, _, ⟨_, kind, rfl⟩, text, rfl⟩, noStrays⟩

/-- An accepted payload has each of its fields accepted, and no others. -/
theorem Payload.ofRecord_eq_accepted_iff
    {record : Record}
    {payload : Payload} :
    ofRecord record = .accepted payload ↔
      Field.indicatorName.required indicatorNameOf record = .accepted payload.indicatorName ∧
      Field.indicatorCode.optional Scalar.text "" record = .accepted payload.indicatorCode ∧
      Field.timeframeExpression.optional timeframeOf chartTimeframe record =
        .accepted payload.timeframe ∧
      Field.lots.optional Scalar.positiveNumber tenthOfLot record = .accepted payload.lots ∧
      Field.slippage.optional Scalar.integer standardSlippage record =
        .accepted payload.slippage ∧
      Field.stopLoss.optional Scalar.natural 0 record = .accepted payload.stopLoss ∧
      Field.takeProfit.optional Scalar.natural 0 record = .accepted payload.takeProfit ∧
      Field.magicNumber.optional Scalar.integer standardMagicNumber record =
        .accepted payload.magicNumber ∧
      Field.logicConfig.required Strategy.ofValue record = .accepted payload.strategy ∧
      FieldName.strayEntries fieldNames record = [] := by
  simp only [ofRecord, Checked.withFaults_eq_accepted_iff, FieldName.strayFaults_eq_nil_iff,
    Checked.and_eq_accepted_iff, Checked.map_eq_accepted_iff]
  constructor
  · rintro ⟨⟨_, _, ⟨_, _, ⟨_, _, ⟨_, _, ⟨_, _, ⟨_, _, ⟨_, _, ⟨_, _, ⟨_, name, rfl⟩, code, rfl⟩,
      timeframe, rfl⟩, lots, rfl⟩, slippage, rfl⟩, stopLoss, rfl⟩, takeProfit, rfl⟩, magicNumber,
      rfl⟩, strategy, rfl⟩, noStrays⟩
    exact ⟨name, code, timeframe, lots, slippage, stopLoss, takeProfit, magicNumber, strategy,
      noStrays⟩
  · rintro ⟨name, code, timeframe, lots, slippage, stopLoss, takeProfit, magicNumber, strategy,
      noStrays⟩
    exact ⟨⟨_, _, ⟨_, _, ⟨_, _, ⟨_, _, ⟨_, _, ⟨_, _, ⟨_, _, ⟨_, _, ⟨_, name, rfl⟩, code, rfl⟩,
      timeframe, rfl⟩, lots, rfl⟩, slippage, rfl⟩, stopLoss, rfl⟩, takeProfit, rfl⟩, magicNumber,
      rfl⟩, strategy, rfl⟩, noStrays⟩

/-! Written payloads. -/

namespace Scalar

theorem natural_natCast (number : Nat) : natural (.integer number) = .accepted number := by
  have notNegative : ¬ (number : Int) < 0 := by omega
  simp [natural, integer, Checked.andThen, notNegative]

theorem finiteNumber_toValue (number : FiniteBinary64) :
    finiteNumber number.toValue = .accepted number := rfl

theorem optional_ofOption (number : Option FiniteBinary64) :
    optional finiteNumber (.ofOption FiniteBinary64.toValue number) = .accepted number := by
  cases number <;> rfl

theorem positiveNumber_toValue (lots : Lots) :
    positiveNumber lots.val.toValue = .accepted lots := by
  rw [positiveNumber, finiteNumber_toValue, Checked.andThen]
  exact dif_pos lots.property

theorem filledText_of_ne
    {content : String}
    (someText : content ≠ "") :
    filledText (.text content) = .accepted content := by
  have notEmpty : (content == "") = false := beq_false_of_ne someText
  simp [filledText, pairedText, text, Checked.andThen, someText]

/-- The name of a direction is accepted as the direction. -/
theorem direction_name (breach : BreachDirection) :
    direction (.text breach.name) = .accepted breach := by
  cases breach <;> rfl

end Scalar

/-- A crossover strategy that is written down is accepted again. -/
theorem CrossoverStrategy.ofRecord_toRecord
    (settings : CrossoverStrategy)
    (spelling : Spelling) :
    ofRecord ((Strategy.crossover settings).toRecord spelling) = .accepted settings := by
  refine ofRecord_eq_accepted_iff.mpr ⟨?_, ?_, ?_, ?_, ?_, ?_⟩
  · cases spelling <;> rfl
  · cases spelling <;> exact (FieldName.optional_eq_accepted_iff rfl).mpr (Scalar.natural_natCast _)
  · cases spelling <;> exact (FieldName.optional_eq_accepted_iff rfl).mpr (Scalar.natural_natCast _)
  · cases spelling <;> rfl
  · cases spelling <;> rfl
  · cases spelling <;> rfl

theorem ThresholdStrategy.ofRecord_toRecord
    (settings : ThresholdStrategy)
    (spelling : Spelling) :
    ofRecord ((Strategy.threshold settings).toRecord spelling) = .accepted settings := by
  refine ofRecord_eq_accepted_iff.mpr ⟨?_, ?_, ?_, ?_, ?_, ?_, ?_⟩
  · cases spelling <;> rfl
  · cases spelling <;> exact (FieldName.optional_eq_accepted_iff rfl).mpr (Scalar.natural_natCast _)
  · cases spelling <;>
      exact (FieldName.optional_eq_accepted_iff rfl).mpr (Scalar.optional_ofOption _)
  · cases spelling <;>
      exact (FieldName.optional_eq_accepted_iff rfl).mpr (Scalar.optional_ofOption _)
  · cases spelling <;> exact (FieldName.optional_eq_accepted_iff rfl).mpr (Scalar.direction_name _)
  · cases spelling <;> rfl
  · cases spelling <;> rfl

/-- A strategy that is written down is accepted again as one of its kind. -/
theorem Strategy.ofRecord_toRecord
    (strategy : Strategy)
    (spelling : Spelling) :
    ofRecord strategy.kind (strategy.toRecord spelling) = .accepted strategy := by
  cases strategy with
  | crossover settings =>
      exact Checked.map_eq_accepted_iff.mpr ⟨settings, settings.ofRecord_toRecord spelling, rfl⟩
  | threshold settings =>
      exact Checked.map_eq_accepted_iff.mpr ⟨settings, settings.ofRecord_toRecord spelling, rfl⟩
  | custom snippet => cases spelling <;> rfl

/-- A strategy that is written down is accepted again. -/
theorem Strategy.ofValue_toRecord
    (strategy : Strategy)
    (spelling : Spelling) :
    ofValue (.record (strategy.toRecord spelling)) = .accepted strategy := by
  have named :
      Record.get? (strategy.toRecord spelling) "kind" = some (.text strategy.kind.name) := by
    cases spelling <;> rfl
  have selected : selectedKind? (.text strategy.kind.name) = some strategy.kind :=
    selectedKind?_eq_some_iff.mpr rfl
  rw [ofValue_record, named]
  simp only [selected]
  exact Checked.under_eq_accepted_iff.mpr (strategy.ofRecord_toRecord spelling)

namespace Payload

theorem ne_empty_of_not_blank
    {text : String}
    (notBlank : Text.isAllBlank text = false) :
    text ≠ "" := by
  rintro rfl
  exact absurd notBlank (by decide)

theorem indicatorNameOf_text (name : IndicatorName) :
    indicatorNameOf (.text name.text) = .accepted name := by
  rw [indicatorNameOf, Scalar.filledText_of_ne (ne_empty_of_not_blank name.not_blank)]
  simp [Checked.andThen, name.not_blank, name.printable]

theorem timeframeOf_text (timeframe : Timeframe) :
    timeframeOf (.text timeframe.text) = .accepted timeframe := by
  rw [timeframeOf, Scalar.filledText_of_ne (ne_empty_of_not_blank timeframe.not_blank)]
  simp [Checked.andThen, timeframe.not_blank]

/-- A payload that is written down is accepted again. -/
theorem ofRecord_toRecord
    (payload : Payload)
    (spelling : Spelling) :
    ofRecord (payload.toRecord spelling) = .accepted payload := by
  refine ofRecord_eq_accepted_iff.mpr ⟨?_, ?_, ?_, ?_, ?_, ?_, ?_, ?_, ?_, ?_⟩
  · cases spelling <;> exact (FieldName.required_eq_accepted_iff rfl).mpr (indicatorNameOf_text _)
  · cases spelling <;> rfl
  · cases spelling <;> exact (FieldName.optional_eq_accepted_iff rfl).mpr (timeframeOf_text _)
  · cases spelling <;>
      exact (FieldName.optional_eq_accepted_iff rfl).mpr (Scalar.positiveNumber_toValue _)
  · cases spelling <;> rfl
  · cases spelling <;> exact (FieldName.optional_eq_accepted_iff rfl).mpr (Scalar.natural_natCast _)
  · cases spelling <;> exact (FieldName.optional_eq_accepted_iff rfl).mpr (Scalar.natural_natCast _)
  · cases spelling <;> rfl
  · cases spelling <;>
      exact (FieldName.required_eq_accepted_iff rfl).mpr (Strategy.ofValue_toRecord _ _)
  · cases spelling <;> rfl

end Payload

end ExpertAdvisor
