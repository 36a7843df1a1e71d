import ExpertAdvisor.Proofs.Payload.FieldRules

namespace ExpertAdvisor

/-!
# Fitting payloads

A payload is accepted exactly when it fits the rules of its fields, and its
strategy those of the kind that it names.  Otherwise every field reports its own
faults, in the order of declaration, and then every surplus key is reported in
the order of the keys.
-/

/-- A value is read as something that meets a condition. -/
def Value.Converts
    (read : Value → Checked α)
    (condition : α → Prop)
    (value : Value) : Prop :=
  ∃ content, read value = .accepted content ∧ condition content

namespace Value

/-- Some text; bytes count as the text that they encode. -/
def ConvertsToText : Value → Prop :=
  Converts Scalar.text fun _ => True

/-- A name that is not empty, has a character that is not blank, and prints on one line. -/
def ConvertsToName : Value → Prop :=
  Converts Scalar.pairedText fun content =>
    content ≠ "" ∧ (∃ character ∈ content.toList, Text.isBlank character = false) ∧
      ∀ character ∈ content.toList, Text.isPrintable character = true

/-- A timeframe that is not empty and has a character that is not blank. -/
def ConvertsToTimeframe : Value → Prop :=
  Converts Scalar.pairedText fun content =>
    content ≠ "" ∧ ∃ character ∈ content.toList, Text.isBlank character = false

/-- What can be read as an integer. -/
def ConvertsToInteger : Value → Prop :=
  Converts Scalar.integer fun _ => True

/-- An integer that is not negative. -/
def ConvertsToNatural : Value → Prop :=
  Converts Scalar.integer fun number => 0 ≤ number

/-- A number that is neither infinite nor undefined. -/
def ConvertsToFinite : Value → Prop :=
  Converts Scalar.real fun number => number.isFinite = true

/-- A finite number greater than zero. -/
def ConvertsToVolume : Value → Prop :=
  Converts Scalar.real fun number =>
    ∃ finite, number = .finite finite ∧ finite.isPositive = true

/-- What can be read as a flag. -/
def ConvertsToFlag : Value → Prop :=
  Converts Scalar.flag fun _ => True

/-- The name of one of the directions. -/
def ConvertsToDirection : Value → Prop :=
  Converts Scalar.pairedText fun content => content ∈ ["above", "below", "band"]

end Value

/-! What single values must convert to. -/

namespace Text

/-- A text has a character that is not blank exactly when it is not all blank. -/
theorem exists_not_blank_iff {content : String} :
    (∃ character ∈ content.toList, isBlank character = false) ↔ isAllBlank content = false := by
  rw [isAllBlank, List.all_eq_false]
  simp only [Bool.not_eq_true]

end Text

namespace Scalar

variable {value : Value}

/-- A text is accepted as a filled one when it is accepted and is not empty. -/
theorem filledText_eq_accepted_iff
    {content : String} :
    filledText value = .accepted content ↔
      pairedText value = .accepted content ∧ content ≠ "" := by
  rw [filledText, Checked.andThen_eq_accepted_iff]
  constructor
  · rintro ⟨read, isRead, filled⟩
    split at filled
    case isTrue => cases filled
    case isFalse notEmpty =>
      cases filled
      exact ⟨isRead, by simpa using notEmpty⟩
  · rintro ⟨isRead, notEmpty⟩
    exact ⟨content, isRead, if_neg (by simpa using notEmpty)⟩

/-- Without a condition it is enough that a value is read. -/
theorem exists_accepted_iff
    {read : Value → Checked α} :
    (∃ content, read value = .accepted content) ↔ value.Converts read fun _ => True := by
  simp only [Value.Converts, and_true]

/-- What converts to a natural number is accepted as one. -/
theorem exists_natural_iff :
    (∃ number, natural value = .accepted number) ↔ value.ConvertsToNatural := by
  simp only [natural, Checked.andThen_eq_accepted_iff, Value.ConvertsToNatural, Value.Converts]
  constructor
  · rintro ⟨number, whole, isWhole, checked⟩
    refine ⟨whole, isWhole, ?_⟩
    by_contra negative
    rw [if_pos (Int.not_le.mp negative)] at checked
    cases checked
  · rintro ⟨whole, isWhole, notNegative⟩
    exact ⟨whole.toNat, whole, isWhole, if_neg (Int.not_lt.mpr notNegative)⟩

theorem exists_finiteNumber_iff :
    (∃ number, finiteNumber value = .accepted number) ↔ value.ConvertsToFinite := by
  simp only [finiteNumber, Checked.andThen_eq_accepted_iff, Value.ConvertsToFinite,
    Value.Converts]
  constructor
  · rintro ⟨finite, number, isNumber, checked⟩
    refine ⟨number, isNumber, ?_⟩
    cases number with
    | finite number => rfl
    | _ => exact nomatch checked
  · rintro ⟨number, isNumber, isFinite⟩
    cases number with
    | finite number => exact ⟨number, .finite number, isNumber, rfl⟩
    | _ => exact nomatch isFinite

theorem exists_positiveNumber_iff :
    (∃ number, positiveNumber value = .accepted number) ↔ value.ConvertsToVolume := by
  simp only [positiveNumber, finiteNumber, Checked.andThen_eq_accepted_iff,
    Value.ConvertsToVolume, Value.Converts]
  constructor
  · rintro ⟨positive, finite, ⟨number, isNumber, isFinite⟩, checked⟩
    refine ⟨number, isNumber, finite, ?_, ?_⟩
    · cases number with
      | finite number => rw [Checked.accepted.inj isFinite]
      | _ => cases isFinite
    · by_contra notPositive
      rw [dif_neg notPositive] at checked
      cases checked
  · rintro ⟨_, isNumber, finite, rfl, isPositive⟩
    exact ⟨⟨finite, isPositive⟩, finite, ⟨_, isNumber, rfl⟩, dif_pos isPositive⟩

theorem exists_level_iff :
    (∃ level, optional finiteNumber value = .accepted level) ↔
      value = .null ∨ value.ConvertsToFinite := by
  rw [← exists_finiteNumber_iff]
  by_cases isNull : value = .null
  · subst isNull
    exact iff_of_true ⟨none, rfl⟩ (.inl rfl)
  · have notNull : value.isNull = false := by
      cases value <;> first | rfl | exact absurd rfl isNull
    simp only [optional, notNull, Bool.false_eq_true, if_false, Checked.map_eq_accepted_iff,
      isNull, false_or]
    constructor
    · rintro ⟨_, number, accepted, rfl⟩
      exact ⟨number, accepted⟩
    · rintro ⟨number, accepted⟩
      exact ⟨some number, number, accepted, rfl⟩

/-- What has words is read as a text of characters when they can be decoded. -/
theorem pairedText_eq_accepted_iff
    {content : String} :
    pairedText value = .accepted content ↔ (words? value).join = some content := by
  cases value with
  | text own => simp [pairedText, text, words?]
  | bytes own =>
      simp only [pairedText, text, words?, Option.join_some]
      cases Text.decodePlainText own with
      | ok decoded => simp [Except.toOption]
      | error fault => simp [Except.toOption, Checked.fail]
  | _ => constructor <;> rintro ⟨⟩

/-- What converts to a direction is accepted as one. -/
theorem exists_direction_iff :
    (∃ breach, direction value = .accepted breach) ↔ value.ConvertsToDirection := by
  have named (content : String) :
      (∃ breach : BreachDirection, breach.name = content) ↔
        content ∈ ["above", "below", "band"] := by
    constructor
    · rintro ⟨breach, rfl⟩
      cases breach <;> simp [BreachDirection.name]
    · intro listed
      simp only [List.mem_cons, List.not_mem_nil, or_false] at listed
      rcases listed with rfl | rfl | rfl
      · exact ⟨.above, rfl⟩
      · exact ⟨.below, rfl⟩
      · exact ⟨.band, rfl⟩
  simp only [Value.ConvertsToDirection, Value.Converts, pairedText_eq_accepted_iff, ← named,
    ← BreachDirection.ofName?_eq_some_iff]
  unfold direction
  split
  case h_1 => exact iff_of_false (by rintro ⟨_, ⟨⟩⟩) (by rintro ⟨_, ⟨⟩, _⟩)
  case h_2 =>
    cases (words? value).join with
    | none => exact iff_of_false nofun nofun
    | some content =>
        simp only [Option.bind_some, Option.some.injEq, exists_eq_left']
        cases BreachDirection.ofName? content with
        | none => exact iff_of_false nofun nofun
        | some breach => exact iff_of_true ⟨breach, rfl⟩ ⟨breach, rfl⟩

/-- The kind is accepted when it is named as it is expected. -/
theorem exists_kindOf_iff
    {kind : StrategyKind} :
    (∃ checked, kindOf kind value = .accepted checked) ↔ value = .text kind.name := by
  cases value with
  | text given => by_cases same : given = kind.name <;> simp [kindOf, same, Checked.fail]
  | _ => exact iff_of_false nofun nofun

end Scalar

namespace Payload

theorem exists_indicatorNameOf_iff
    {value : Value} :
    (∃ name, indicatorNameOf value = .accepted name) ↔ value.ConvertsToName := by
  simp only [indicatorNameOf, Checked.andThen_eq_accepted_iff, Value.ConvertsToName,
    Value.Converts, Scalar.filledText_eq_accepted_iff, Text.exists_not_blank_iff,
    ← List.all_eq_true]
  constructor
  · rintro ⟨name, content, ⟨isText, notEmpty⟩, checked⟩
    split at checked
    · cases checked
    · split at checked
      case isTrue notBlank printable =>
        exact ⟨content, isText, notEmpty, by simpa using notBlank, printable⟩
      case isFalse => cases checked
  · rintro ⟨content, isText, notEmpty, notBlank, printable⟩
    refine ⟨⟨content, notBlank, printable⟩, content, ⟨isText, notEmpty⟩, ?_⟩
    rw [dif_neg (by simpa using notBlank), dif_pos printable]

theorem exists_timeframeOf_iff
    {value : Value} :
    (∃ timeframe, timeframeOf value = .accepted timeframe) ↔ value.ConvertsToTimeframe := by
  simp only [timeframeOf, Checked.andThen_eq_accepted_iff, Value.ConvertsToTimeframe,
    Value.Converts, Scalar.filledText_eq_accepted_iff, Text.exists_not_blank_iff]
  constructor
  · rintro ⟨timeframe, content, ⟨isText, notEmpty⟩, checked⟩
    split at checked
    case isTrue => cases checked
    case isFalse notBlank => exact ⟨content, isText, notEmpty, by simpa using notBlank⟩
  · rintro ⟨content, isText, notEmpty, notBlank⟩
    exact ⟨⟨content, notBlank⟩, content, ⟨isText, notEmpty⟩, dif_neg (by simpa using notBlank)⟩

end Payload

/-! Rules that several fields share. -/

namespace FieldRule

/-- The rule of a field that may give an integer. -/
def integer (name : FieldName) : FieldRule :=
  .ofCheck name false Scalar.integer Value.ConvertsToInteger fun _ => Scalar.exists_accepted_iff

/-- The rule of a field that may give a distance in points or the index of a buffer. -/
def natural (name : FieldName) : FieldRule :=
  .ofCheck name false Scalar.natural Value.ConvertsToNatural fun _ => Scalar.exists_natural_iff

/-- The rule of a field that may give a flag. -/
def flag (name : FieldName) : FieldRule :=
  .ofCheck name false Scalar.flag Value.ConvertsToFlag fun _ => Scalar.exists_accepted_iff

/-- The rule of a field that may give a level, or null for none. -/
def level (name : FieldName) : FieldRule :=
  .ofCheck name false (Scalar.optional Scalar.finiteNumber)
    (fun value => value = .null ∨ value.ConvertsToFinite) fun _ => Scalar.exists_level_iff

end FieldRule

/-! Strategies. -/

namespace Strategy

/-- The rule of the field that names a strategy's kind. -/
def kindRule (kind : StrategyKind) : FieldRule :=
  .ofCheck Field.kind false (Scalar.kindOf kind) (fun value => value = .text kind.name)
    fun _ => Scalar.exists_kindOf_iff

/-- The rules of a strategy's fields in the order of their declaration. -/
def fieldRules : StrategyKind → List FieldRule
  | .crossover =>
      [kindRule .crossover, .natural Field.fastBuffer, .natural Field.slowBuffer,
        .flag Field.allowMultiplePositions, .flag Field.reverseSignal]
  | .threshold =>
      [kindRule .threshold, .natural Field.buffer, .level Field.upper, .level Field.lower,
        .ofCheck Field.direction false Scalar.direction Value.ConvertsToDirection
          fun _ => Scalar.exists_direction_iff,
        .flag Field.allowMultiplePositions]
  | .custom =>
      [kindRule .custom,
        .ofCheck Field.snippet true Scalar.text Value.ConvertsToText
          fun _ => Scalar.exists_accepted_iff]

theorem map_name_fieldRules (kind : StrategyKind) :
    (fieldRules kind).map FieldRule.name = fieldNames kind := by
  cases kind <;> rfl

theorem areDistinct_fieldNames (kind : StrategyKind) : FieldName.AreDistinct (fieldNames kind) :=
  Payload.areDistinct_nestedFieldNames.subset (fieldNames_subset kind)

/-- A strategy of some kind has the faults that its rules report. -/
theorem faults_ofRecord
    (kind : StrategyKind)
    (record : Record) :
    (ofRecord kind record).faults = Record.faults (fieldRules kind) record := by
  rw [Record.faults, map_name_fieldRules,
    ← FieldName.strayFaults_eq_surplusFaults (areDistinct_fieldNames kind)]
  cases kind with
  | crossover =>
      simp only [ofRecord, CrossoverStrategy.ofRecord, Checked.faults_map,
        Checked.faults_withFaults, Checked.faults_and, FieldName.faults_optional, fieldRules,
        List.flatMap_cons, List.flatMap_nil, List.append_nil, List.append_assoc]
      rfl
  | threshold =>
      simp only [ofRecord, ThresholdStrategy.ofRecord, Checked.faults_map,
        Checked.faults_withFaults, Checked.faults_and, FieldName.faults_optional, fieldRules,
        List.flatMap_cons, List.flatMap_nil, List.append_nil, List.append_assoc]
      rfl
  | custom =>
      simp only [ofRecord, snippetOfRecord, Checked.faults_map, Checked.faults_withFaults,
        Checked.faults_and, FieldName.faults_optional, FieldName.faults_required, fieldRules,
        List.flatMap_cons, List.flatMap_nil, List.append_nil, List.append_assoc]
      rfl

/-- A strategy is accepted exactly when its record fits the rules of its fields. -/
theorem exists_ofRecord_iff
    {kind : StrategyKind}
    {record : Record} :
    (∃ strategy, ofRecord kind record = .accepted strategy) ↔
      Record.Fits (fieldRules kind) record := by
  have distinct := areDistinct_fieldNames kind
  rw [← map_name_fieldRules] at distinct
  rw [← Checked.faults_eq_nil_iff, faults_ofRecord, Record.faults_eq_nil_iff distinct]

/-- A value fits as a strategy when it is a record that names a kind and fits the kind's rules. -/
def Fits (value : Value) : Prop :=
  ∃ fields, ∃ kind : StrategyKind, value = .record fields ∧
    Record.get? fields "kind" = some (.text kind.name) ∧ Record.Fits (fieldRules kind) fields

variable {kind : StrategyKind} {fields : Record}

/-- A strategy is checked as one of the kind that it names. -/
theorem ofValue_of_named (named : Record.get? fields "kind" = some (.text kind.name)) :
    ofValue (.record fields) = (ofRecord kind fields).under (.key kind.name) := by
  have selected : selectedKind? (.text kind.name) = some kind :=
    selectedKind?_eq_some_iff.mpr rfl
  rw [ofValue_record, named]
  simp only [selected]

/-- A strategy that names its kind has the faults that the rules of its fields find. -/
theorem faults_ofValue_of_named (named : Record.get? fields "kind" = some (.text kind.name)) :
    (ofValue (.record fields)).faults =
      (Record.faults (fieldRules kind) fields).map (Fault.under (.key kind.name)) := by
  rw [ofValue_of_named named, Checked.faults_under, faults_ofRecord]

/-- A value is accepted as a strategy exactly when it fits one. -/
theorem exists_ofValue_iff
    {value : Value} :
    (∃ strategy, ofValue value = .accepted strategy) ↔ Fits value := by
  constructor
  · rintro ⟨strategy, accepted⟩
    obtain ⟨fields, kind, rfl, named⟩ := exists_kind_of_accepted accepted
    rw [ofValue_of_named named, Checked.under_eq_accepted_iff] at accepted
    exact ⟨fields, kind, rfl, named, exists_ofRecord_iff.mp ⟨strategy, accepted⟩⟩
  · rintro ⟨fields, kind, rfl, named, fits⟩
    obtain ⟨strategy, accepted⟩ := exists_ofRecord_iff.mpr fits
    refine ⟨strategy, ?_⟩
    rw [ofValue_of_named named, Checked.under_eq_accepted_iff]
    exact accepted

/-- An accepted strategy is of the kind that its record names. -/
theorem named_of_accepted
    {value : Value}
    {strategy : Strategy}
    (accepted : ofValue value = .accepted strategy) :
    ∃ fields, value = .record fields ∧
      Record.get? fields "kind" = some (.text strategy.kind.name) := by
  obtain ⟨fields, kind, rfl, named⟩ := exists_kind_of_accepted accepted
  rw [ofValue_of_named named, Checked.under_eq_accepted_iff] at accepted
  have isOfKind : strategy.kind = kind := by
    cases kind <;> obtain ⟨_, _, rfl⟩ := Checked.map_eq_accepted_iff.mp accepted <;> rfl
  exact ⟨fields, rfl, isOfKind ▸ named⟩

end Strategy

/-! Payloads. -/

namespace Payload

/-- The rules of a payload's fields in the order of their declaration. -/
def fieldRules : List FieldRule :=
  [.ofCheck Field.indicatorName true indicatorNameOf Value.ConvertsToName
      fun _ => exists_indicatorNameOf_iff,
    .ofCheck Field.indicatorCode false Scalar.text Value.ConvertsToText
      fun _ => Scalar.exists_accepted_iff,
    .ofCheck Field.timeframeExpression false timeframeOf Value.ConvertsToTimeframe
      fun _ => exists_timeframeOf_iff,
    .ofCheck Field.lots false Scalar.positiveNumber Value.ConvertsToVolume
      fun _ => Scalar.exists_positiveNumber_iff,
    .integer Field.slippage, .natural Field.stopLoss, .natural Field.takeProfit,
    .integer Field.magicNumber,
    .ofCheck Field.logicConfig true Strategy.ofValue Strategy.Fits
      fun _ => Strategy.exists_ofValue_iff]

theorem map_name_fieldRules : fieldRules.map FieldRule.name = fieldNames := rfl

theorem areDistinct_fieldNames : FieldName.AreDistinct fieldNames :=
  areDistinct_nestedFieldNames.subset fieldNames_subset

/-- A payload has the faults that its rules report. -/
theorem faults_ofRecord (record : Record) :
    (ofRecord record).faults = Record.faults fieldRules record := by
  rw [Record.faults, map_name_fieldRules,
    ← FieldName.strayFaults_eq_surplusFaults areDistinct_fieldNames]
  simp only [ofRecord, Checked.faults_map, Checked.faults_withFaults, Checked.faults_and,
    FieldName.faults_optional, FieldName.faults_required, fieldRules, List.flatMap_cons,
    List.flatMap_nil, List.append_nil, List.append_assoc]
  rfl

/-- A payload is accepted exactly when its record fits the rules of its fields. -/
theorem exists_ofRecord_iff
    {record : Record} :
    (∃ payload, ofRecord record = .accepted payload) ↔ Record.Fits fieldRules record := by
  rw [← Checked.faults_eq_nil_iff, faults_ofRecord]
  exact Record.faults_eq_nil_iff areDistinct_fieldNames

/-- An accepted payload names the kind of its strategy. -/
theorem strategy_named_of_accepted
    {record : Record}
    {payload : Payload}
    (accepted : ofRecord record = .accepted payload) :
    ∃ key fields, Field.logicConfig.found? record = some (key, .record fields) ∧
      Record.get? fields "kind" = some (.text payload.strategy.kind.name) := by
  obtain ⟨_, _, _, _, _, _, _, _, strategy, _⟩ := ofRecord_eq_accepted_iff.mp accepted
  obtain ⟨key, value, found, valueAccepted⟩ := FieldName.found?_of_required strategy
  obtain ⟨fields, rfl, named⟩ := Strategy.named_of_accepted valueAccepted
  exact ⟨key, fields, found, named⟩

/--
A payload is accepted exactly when it fits the rules of its fields, and then its
strategy is of the kind that is named.  Otherwise its faults are those of the
fields in order, each found in the field alone, and one for every surplus key.
The faults of a strategy are of the same form, under the name of its kind.
-/
theorem accepted_iff_fits (record : Record) :
    ((∃ payload, ofRecord record = .accepted payload) ↔ Record.Fits fieldRules record) ∧
    (∀ payload, ofRecord record = .accepted payload →
      ∃ key fields, Field.logicConfig.found? record = some (key, .record fields) ∧
        Record.get? fields "kind" = some (.text payload.strategy.kind.name)) ∧
    (∀ fault more, ofRecord record = .refused fault more →
      fault :: more =
        fieldRules.flatMap (fun rule => rule.faultsIn record) ++
          FieldName.surplusFaults fieldNames record) ∧
    (∀ fields, ∀ kind : StrategyKind,
      Record.get? fields "kind" = some (.text kind.name) →
        (Strategy.ofValue (.record fields)).faults =
          ((Strategy.fieldRules kind).flatMap (fun rule => rule.faultsIn fields) ++
            FieldName.surplusFaults (Strategy.fieldNames kind) fields).map
              (Fault.under (.key kind.name))) := by
  refine ⟨exists_ofRecord_iff, ?_, ?_, ?_⟩
  · intro payload accepted
    exact strategy_named_of_accepted accepted
  · intro fault more refused
    rw [← Checked.faults_refused refused, faults_ofRecord]
    rfl
  · intro fields kind named
    rw [Strategy.faults_ofValue_of_named named, Record.faults, Strategy.map_name_fieldRules]

/-- A custom strategy without a snippet. -/
def snippetlessStrategy : Record :=
  [("kind", .text "custom")]

/-- A payload that asks for the strategy without a snippet. -/
def snippetlessRecord : Record :=
  [("indicatorName", .text "RSI"), ("logicConfig", .record snippetlessStrategy)]

/--
Known keys, a name, a strategy of a known kind, and given fields that all convert
are not enough: a custom strategy without its snippet is refused.
-/
theorem refused_snippetlessRecord :
    (∀ entry ∈ snippetlessRecord,
      ¬ FieldName.IsSurplus fieldNames snippetlessRecord entry.1) ∧
    (∀ entry ∈ snippetlessStrategy,
      ¬ FieldName.IsSurplus (Strategy.fieldNames .custom) snippetlessStrategy entry.1) ∧
    Field.indicatorName.Gives snippetlessRecord (.text "RSI") ∧
    Field.logicConfig.Gives snippetlessRecord (.record snippetlessStrategy) ∧
    Record.get? snippetlessStrategy "kind" = some (.text StrategyKind.custom.name) ∧
    (∀ rule ∈ fieldRules, rule.name ≠ Field.logicConfig →
      ∀ value, rule.name.Gives snippetlessRecord value → rule.Admits value) ∧
    (∀ rule ∈ Strategy.fieldRules .custom,
      ∀ value, rule.name.Gives snippetlessStrategy value → rule.Admits value) ∧
    ∀ payload, ofRecord snippetlessRecord ≠ .accepted payload := by
  refine ⟨by decide, by decide, .inl rfl, .inl rfl, rfl, ?_, ?_, ?_⟩
  · intro rule member notStrategy value gives
    simp only [fieldRules, List.mem_cons, List.not_mem_nil, or_false] at member
    rcases member with rfl | rfl | rfl | rfl | rfl | rfl | rfl | rfl | rfl
    · obtain rfl : Value.text "RSI" = value := by
        rcases gives with given | given
        · exact Option.some.inj given
        · exact nomatch given
      exact exists_indicatorNameOf_iff.mp ⟨⟨"RSI", by decide, by decide⟩, rfl⟩
    all_goals first
      | exact absurd rfl notStrategy
      | rcases gives with given | given <;> exact nomatch given
  · intro rule member value gives
    simp only [Strategy.fieldRules, List.mem_cons, List.not_mem_nil, or_false] at member
    rcases member with rfl | rfl
    · rcases gives with given | given <;> exact (Option.some.inj given).symm
    · rcases gives with given | given <;> exact nomatch given
  · intro payload accepted
    have refused : ∃ fault more, ofRecord snippetlessRecord = .refused fault more := ⟨_, _, rfl⟩
    obtain ⟨fault, more, isRefused⟩ := refused
    exact nomatch accepted.symm.trans isRefused

end Payload

end ExpertAdvisor
