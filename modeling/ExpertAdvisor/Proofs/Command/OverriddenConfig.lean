import ExpertAdvisor.Proofs.Command.ConfiguredPayload
import ExpertAdvisor.Proofs.Command.Reconfiguration
import ExpertAdvisor.Proofs.Payload.FittingPayloads

namespace ExpertAdvisor.Command

/-!
# Options above a configuration

An option that is given stands above its configured field, whatever its value
is.  Two configurations that differ only in such fields, in their values, their
presence or their spelling, lead to the same outcome.
-/

namespace GenerationOptions

/-- A key of a configuration is a spelling of a field that an option gives. -/
def Overrides
    (options : GenerationOptions)
    (key : String) : Prop :=
  ∃ name, options.gives name = true ∧ name.spells key = true

end GenerationOptions

/-- Two records give every key the same value, ignored ones apart. -/
def RecordsAgree
    (ignored : String → Prop)
    (first second : Record) : Prop :=
  ∀ key, ¬ ignored key → Record.get? first key = Record.get? second key

/-- Two configured strategies are the same, ignored keys of theirs apart. -/
inductive StrategiesAgree
    (ignored : String → Prop) :
    Option Value → Option Value → Prop where
  | same (value : Option Value) : StrategiesAgree ignored value value
  | records {first second : Record}
      (agree : RecordsAgree ignored first second) :
      StrategiesAgree ignored (some (.record first)) (some (.record second))

/-- Two configurations differ at most in fields that options give. -/
structure GenerationOptions.HideDifference
    (options : GenerationOptions)
    (first second : Record) : Prop where
  fields :
    RecordsAgree
      (fun key => options.Overrides key ∨ Field.logicConfig.spells key = true) first second
  strategies : ∀ key, Field.logicConfig.spells key = true →
    StrategiesAgree options.Overrides (Record.get? first key) (Record.get? second key)

variable {options : GenerationOptions} {first second : Record} {name : FieldName}

/-- Options give only fields of payloads and of strategies. -/
theorem mem_nestedFieldNames_of_gives (given : options.gives name = true) :
    name ∈ Payload.nestedFieldNames := by
  rw [GenerationOptions.gives] at given
  cases found : options.fieldFlags.lookup name with
  | none => rw [found] at given; exact absurd given Bool.false_ne_true
  | some flag =>
      obtain ⟨before, after, split, _⟩ := List.lookup_eq_some_iff.mp found
      have listed : name ∈ options.fieldFlags.map Prod.fst := by
        rw [split, List.map_append, List.map_cons]
        exact List.mem_append_right _ List.mem_cons_self
      have known : options.fieldFlags.map Prod.fst ⊆ Payload.nestedFieldNames := by
        simp only [GenerationOptions.fieldFlags, List.map_cons, List.map_nil]
        decide
      exact known listed

/-- Records that agree count alike in every field, the ignored keys being options' own. -/
theorem countsAlike_of_agree
    {ignored : String → Prop}
    (member : name ∈ Payload.nestedFieldNames)
    (onlyOverridden : ∀ key, name.spells key = true → ignored key → options.Overrides key)
    (agree : RecordsAgree ignored first second) :
    options.CountsAlike first second name := by
  by_cases given : options.gives name = true
  · exact .inl given
  · have free (key : String) (spells : name.spells key = true) : ¬ ignored key := by
      intro isIgnored
      obtain ⟨other, otherGiven, otherSpells⟩ := onlyOverridden key spells isIgnored
      have isOther := Payload.areDistinct_nestedFieldNames.eq_of_spells member
        (mem_nestedFieldNames_of_gives otherGiven) spells otherSpells
      rw [isOther] at given
      exact given otherGiven
    refine .inr ?_
    rw [configured, configured, agree _ (free _ FieldName.spells_snake),
      agree _ (free _ FieldName.spells_camel)]

/-- Strategies that agree apart from what the options override count alike. -/
theorem strategyAlike_of_agree (agree : RecordsAgree options.Overrides first second) :
    options.StrategyAlike first second where
  kind := countsAlike_of_agree (by decide) (fun _ _ isOverridden => isOverridden) agree
  fields kind _ _ member :=
    countsAlike_of_agree (Strategy.fieldNames_subset kind member)
      (fun _ _ isOverridden => isOverridden) agree

/-- Looking at a second spelling keeps the agreement of two configured strategies. -/
theorem StrategiesAgree.or
    {ignored : String → Prop}
    {value other second secondOther : Option Value}
    (agree : StrategiesAgree ignored value other)
    (next : StrategiesAgree ignored second secondOther) :
    StrategiesAgree ignored (value.or second) (other.or secondOther) := by
  cases agree with
  | records agree => exact .records agree
  | same value =>
      cases value with
      | none => exact next
      | some value => exact .same (some value)

/-- A difference that options hide makes none. -/
theorem indifferent_of_hidden (hidden : options.HideDifference first second) :
    options.Indifferent first second where
  fields name member notStrategy := by
    refine countsAlike_of_agree (Payload.fieldNames_subset member) ?_ hidden.fields
    rintro key spells (isOverridden | isStrategy)
    · exact isOverridden
    · exact absurd (Payload.areDistinct_nestedFieldNames.eq_of_spells
        (Payload.fieldNames_subset member) (by decide) spells isStrategy) notStrategy
  strategy := by
    have agree : StrategiesAgree options.Overrides
        ((Record.get? first Field.logicConfig.snake).or
          (Record.get? first Field.logicConfig.camel))
        ((Record.get? second Field.logicConfig.snake).or
          (Record.get? second Field.logicConfig.camel)) :=
      (hidden.strategies _ FieldName.spells_snake).or (hidden.strategies _ FieldName.spells_camel)
    generalize isFirst : (Record.get? first Field.logicConfig.snake).or
      (Record.get? first Field.logicConfig.camel) = value at agree
    generalize isSecond : (Record.get? second Field.logicConfig.snake).or
      (Record.get? second Field.logicConfig.camel) = other at agree
    cases agree with
    | records agree =>
        refine .inr ⟨_, _, configuredStrategy_of_record ?_, configuredStrategy_of_record ?_,
          strategyAlike_of_agree agree⟩
        · rw [configured, isFirst, Option.getD_some]
        · rw [configured, isSecond, Option.getD_some]
    | same value =>
        have same : configuredStrategy second = configuredStrategy first := by
          rw [configuredStrategy, configuredStrategy, configured, configured, isFirst, isSecond]
        cases gathered : configuredStrategy first with
        | error fault => exact .inl ⟨fault, rfl, same.trans gathered⟩
        | ok strategy =>
            exact .inr ⟨strategy, strategy, rfl, same.trans gathered,
              strategyAlike_of_agree fun _ _ => rfl⟩

/-! Blank levels. -/

namespace GenerationRequest

variable {request : GenerationRequest} {surroundings : Surroundings} {record : Record}

/-- A blank level option sets no level, whatever is configured. -/
theorem level_of_blank
    {text : String}
    (blank : Text.isAllBlank text = true) :
    request.level (some text) name = .ok .null := by
  rw [level, Value.ofOption, firstGiven_cons_of_given _ rfl, Normalize.threshold, if_pos blank]
  rfl

/-- The levels among the fields that are written down for a threshold strategy. -/
theorem levels_of_thresholdFields
    {fields : List (FieldName × Value)}
    (written : request.thresholdFields = .ok fields) :
    ∃ buffer upper lower direction,
      request.level request.options.upper Field.upper = .ok upper ∧
      request.level request.options.lower Field.lower = .ok lower ∧
      fields = [(Field.buffer, buffer), (Field.upper, upper), (Field.lower, lower),
        (Field.direction, direction), (Field.allowMultiplePositions, request.stacking)] := by
  obtain ⟨buffer, _, written⟩ := Outcome.bind_eq_ok_iff.mp written
  obtain ⟨upper, isUpper, written⟩ := Outcome.bind_eq_ok_iff.mp written
  obtain ⟨lower, isLower, written⟩ := Outcome.bind_eq_ok_iff.mp written
  exact ⟨buffer, upper, lower, _, isUpper, isLower, (Except.ok.inj written).symm⟩

/-- A payload that is written down holds the normalised risk settings and the strategy's fields. -/
theorem strategyFields_of_payload (written : request.payload surroundings = .ok record) :
    ∃ fields, request.strategyFields surroundings = .ok fields ∧
      Field.logicConfig.found? record =
        some ("logic_config",
          .record (FieldName.write .snake ((Field.kind, request.kind) :: fields))) := by
  obtain ⟨risk, _, written⟩ := Outcome.bind_eq_ok_iff.mp written
  obtain ⟨fields, isFields, written⟩ := Outcome.bind_eq_ok_iff.mp written
  refine ⟨fields, isFields, ?_⟩
  rw [← Except.ok.inj written]
  rfl

/-- A written threshold strategy that is accepted has no level whose option is blank. -/
theorem levels_of_accepted
    {payload : Payload}
    {strategy : ThresholdStrategy}
    {text : String}
    (written : request.payload surroundings = .ok record)
    (accepted : Payload.ofRecord record = .accepted payload)
    (isThreshold : payload.strategy = .threshold strategy)
    (blank : Text.isAllBlank text = true) :
    (request.options.upper = some text → strategy.upper = none) ∧
      (request.options.lower = some text → strategy.lower = none) := by
  obtain ⟨fields, isFields, found⟩ := strategyFields_of_payload written
  have isRequired := (Payload.ofRecord_eq_accepted_iff.mp accepted).2.2.2.2.2.2.2.2.1
  rw [isThreshold] at isRequired
  have strategyAccepted := (FieldName.required_eq_accepted_iff found).mp isRequired
  obtain ⟨own, isRecord, named⟩ := Strategy.named_of_accepted strategyAccepted
  obtain rfl := Value.record.inj isRecord
  rw [Strategy.ofValue_of_named named, Checked.under_eq_accepted_iff] at strategyAccepted
  obtain ⟨other, levels, same⟩ := Checked.map_eq_accepted_iff.mp strategyAccepted
  obtain rfl := Strategy.threshold.inj same
  -- The kind that was written down is the one under which the fields were chosen.
  have isKind : request.kind = .text StrategyKind.threshold.name := Option.some.inj named
  have selected : request.kind.text?.bind StrategyKind.ofName? = some .threshold := by
    rw [isKind]
    exact (StrategyKind.ofName?_eq_some_iff _ _).mpr rfl
  rw [strategyFields, selected] at isFields
  obtain ⟨buffer, upper, lower, direction, isUpper, isLower, rfl⟩ :=
    levels_of_thresholdFields isFields
  obtain ⟨_, _, upperAccepted, lowerAccepted, _⟩ :=
    ThresholdStrategy.ofRecord_eq_accepted_iff.mp levels
  constructor
  · intro given
    rw [given, level_of_blank blank] at isUpper
    obtain rfl := Except.ok.inj isUpper
    exact (Checked.accepted.inj upperAccepted).symm
  · intro given
    rw [given, level_of_blank blank] at isLower
    obtain rfl := Except.ok.inj isLower
    exact (Checked.accepted.inj lowerAccepted).symm

end GenerationRequest

section Runs

variable {settings : Settings} {workspace : Workspace} {location : Location}
  {words : List String} {source : String} {standardInput replacement : List UInt8}

/--
Two runs end alike when options hide the difference between their configuration
files, whatever the options' values are.  A blank level option leaves the
strategy that is written down without that level.
-/
theorem Workspace.run_of_hidden
    (configures : workspace.Configures location words source options)
    (loaded : (workspace.surroundings standardInput).config options.config = .ok first)
    (reloaded :
      ((workspace.put location replacement).surroundings standardInput).config options.config =
        .ok second)
    (hidden : options.HideDifference first second) :
    ((workspace.put location replacement).run settings standardInput words).1 =
        (workspace.run settings standardInput words).1 ∧
      ∀ request record payload strategy text,
        GenerationRequest.gather settings (workspace.surroundings standardInput) source options =
          .ok request →
        request.payload (workspace.surroundings standardInput) = .ok record →
        Payload.ofRecord record = .accepted payload →
        payload.strategy = .threshold strategy → Text.isAllBlank text = true →
        (options.upper = some text → strategy.upper = none) ∧
          (options.lower = some text → strategy.lower = none) := by
  constructor
  · exact Workspace.run_of_indifferent configures loaded reloaded (indifferent_of_hidden hidden)
  · intro request record payload strategy text gathered written accepted isThreshold blank
    obtain ⟨_, _, gathered⟩ := Outcome.bind_eq_ok_iff.mp gathered
    obtain ⟨_, _, gathered⟩ := Outcome.bind_eq_ok_iff.mp gathered
    obtain ⟨_, _, gathered⟩ := Outcome.bind_eq_ok_iff.mp gathered
    obtain rfl := Except.ok.inj gathered
    exact GenerationRequest.levels_of_accepted written accepted isThreshold blank

end Runs

/-! A configured distance and level, and options that stand above both. -/

/-- A workspace whose configuration sets a stop-loss and an upper level. -/
def boundedWorkspace : Workspace :=
  configuredWorkspace [] <| Text.encodeText <|
    Text.joinLines ["stop_loss: 50", "logicConfig:", "  kind: threshold", "  upper: 70"]

/-- The file with the distance respelled and without the level. -/
def unboundedBytes : List UInt8 :=
  Text.encodeText (Text.joinLines ["stopLoss: none", "logicConfig:", "  kind: threshold"])

/-- Words that take both back, the one with zero and the other with a blank. -/
def unboundingWords : List String :=
  ["generate", "RSI.mq4", "--config", "RSI.yaml", "--stop-loss", "0", "--upper", ""]

/-- The options that these words give. -/
def unboundingOptions : GenerationOptions :=
  { GenerationOptions.ofConfig (Path.ofText "RSI.yaml") with
    stopLoss := some 0
    upper := some "" }

theorem ofWords?_unboundingWords :
    Invocation.ofWords? unboundingWords =
      some (.run Invocation.standardLogLevel "RSI.mq4" (.generate unboundingOptions)) := by
  decide +kernel

/-- What the configuration says before. -/
def boundedConfig : Record :=
  [("stop_loss", .integer 50),
    ("logicConfig", .record [("kind", .text "threshold"), ("upper", .integer 70)])]

/-- What it says afterwards. -/
def unboundedConfig : Record :=
  [("stopLoss", .text "none"), ("logicConfig", .record [("kind", .text "threshold")])]

/-- The payload with no distance and no level. -/
def unboundedPayload : Payload where
  indicatorName := ⟨"RSI", .refl false, .refl true⟩
  indicatorCode := ""
  timeframe := Payload.chartTimeframe
  lots := Payload.tenthOfLot
  slippage := Payload.standardSlippage
  stopLoss := 0
  takeProfit := 600
  magicNumber := Payload.standardMagicNumber
  strategy := .threshold ⟨0, none, none, .band, false⟩

theorem hideDifference_bounded :
    unboundingOptions.HideDifference boundedConfig unboundedConfig where
  fields key free := by
    have notSnake : "stop_loss" ≠ key := by
      rintro rfl
      exact free (.inl ⟨Field.stopLoss, by decide, by decide⟩)
    have notCamel : "stopLoss" ≠ key := by
      rintro rfl
      exact free (.inl ⟨Field.stopLoss, by decide, by decide⟩)
    have notStrategy : "logicConfig" ≠ key := by
      rintro rfl
      exact free (.inr (by decide))
    simp only [boundedConfig, unboundedConfig, Record.get?_cons, notSnake, notCamel, notStrategy,
      if_false]
  strategies key spells := by
    rcases FieldName.spells_iff.mp spells with rfl | rfl
    · refine StrategiesAgree.records fun key free => ?_
      have notUpper : "upper" ≠ key := by
        rintro rfl
        exact free ⟨Field.upper, by decide, by decide⟩
      simp only [Record.get?_cons, notUpper, if_false]
    · exact .same none

/-- A run is the same when the configuration no longer bounds anything. -/
theorem run_of_hidden_bounded :
    ((boundedWorkspace.put ["RSI.yaml"] unboundedBytes).run .standard [] unboundingWords).1 =
        (boundedWorkspace.run .standard [] unboundingWords).1 ∧
      ∃ request record payload,
        GenerationRequest.gather .standard (boundedWorkspace.surroundings []) "RSI.mq4"
          unboundingOptions = .ok request ∧
        request.payload (boundedWorkspace.surroundings []) = .ok record ∧
        Payload.ofRecord record = .accepted payload ∧
        ∃ strategy, payload.strategy = .threshold strategy ∧ strategy.upper = none := by
  have loaded : (boundedWorkspace.surroundings []).config unboundingOptions.config =
      .ok boundedConfig := by
    decide +kernel
  have reloaded :
      ((boundedWorkspace.put ["RSI.yaml"] unboundedBytes).surroundings []).config
        unboundingOptions.config = .ok unboundedConfig := by
    decide +kernel
  obtain ⟨sameOutcome, unbounded⟩ := @Workspace.run_of_hidden _ _ _ .standard _ _ _ _ _ _
    (configures_configuredWorkspace _ _ ofWords?_unboundingWords rfl rfl) loaded reloaded
    hideDifference_bounded
  let request : GenerationRequest :=
    ⟨.standard, "RSI.mq4", "", unboundingOptions, boundedConfig,
      [("kind", .text "threshold"), ("upper", .integer 70)]⟩
  have gathered : GenerationRequest.gather .standard (boundedWorkspace.surroundings []) "RSI.mq4"
      unboundingOptions = .ok request := by
    have read : (boundedWorkspace.surroundings []).sourceText "RSI.mq4" = .ok "" := by
      decide +kernel
    rw [gather_of_loaded read loaded]
    rfl
  have written : request.payload (boundedWorkspace.surroundings []) =
      .ok (unboundedPayload.toRecord .snake) := by
    decide +kernel
  have accepted := unboundedPayload.ofRecord_toRecord .snake
  have levels := unbounded _ _ _ _ "" gathered written accepted rfl (by decide)
  exact ⟨sameOutcome, _, _, _, gathered, written, accepted, _, rfl, levels.1 rfl⟩

end ExpertAdvisor.Command
