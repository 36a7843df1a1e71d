import ExpertAdvisor.Proofs.Command.ConfiguredRun
import ExpertAdvisor.Proofs.Command.Reconfiguration
import ExpertAdvisor.Proofs.Payload.FittingPayloads

namespace ExpertAdvisor

open Command

/-!
# Malformed configurations

A payload's own validation refuses unknown keys and strategies that are no
records.  A generation takes from its configuration only the keys that it looks
up.  It fails for a strategy that is no record unless that is empty, and all
other keys make no difference.
-/

theorem Value.record?_eq_some_iff
    {value : Value}
    {fields : Record} :
    value.record? = some fields ↔ value = .record fields := by
  cases value <;> simp [record?]

namespace Record

/-- The entries of a record whose keys spell one of the fields. -/
def restrictedTo
    (names : List FieldName)
    (record : Record) : Record :=
  record.filter fun entry => names.any fun name => name.spells entry.1

variable {names : List FieldName} {name : FieldName} {record : Record} {key : String}

/-- Spellings of the fields keep their values. -/
theorem get?_restrictedTo
    (member : name ∈ names)
    (spells : name.spells key = true) :
    get? (restrictedTo names record) key = get? record key := by
  rw [get?, get?, restrictedTo, List.find?_filter]
  refine congrArg (Option.map Prod.snd) (congrArg (fun test => List.find? test record) ?_)
  funext entry
  by_cases here : entry.1 = key
  · have kept : (names.any fun name => name.spells entry.1) = true :=
      List.any_eq_true.mpr ⟨name, member, by rw [here]; exact spells⟩
    simp only [kept, true_and, Bool.decide_eq_true]
  · simp only [beq_false_of_ne here, Bool.false_eq_true, and_false, decide_false]

/-- What remains of a configuration gives its fields as before. -/
theorem configured_restrictedTo (member : name ∈ names) :
    configured (restrictedTo names record) name = configured record name := by
  rw [configured, configured, get?_restrictedTo member FieldName.spells_snake,
    get?_restrictedTo member FieldName.spells_camel]

end Record

namespace Command

/-- A configuration that is malformed as a payload, for one of its keys or for its strategy. -/
inductive Malformed (config : Record) : Prop where
  | unknownField {key : String} {value : Value}
      (member : (key, value) ∈ config)
      (unknown : FieldName.IsUnknown Payload.fieldNames key)
  | strategyNotRecord {value : Value}
      (given : Field.logicConfig.Gives config value)
      (notNull : value.isNull = false)
      (notRecord : value.record? = none)
  | foreignField {fields : Record} {kind : StrategyKind} {key : String} {value : Value}
      (given : Field.logicConfig.Gives config (.record fields))
      (named : Record.get? fields "kind" = some (.text kind.name))
      (member : (key, value) ∈ fields)
      (foreign : FieldName.IsUnknown (Strategy.fieldNames kind) key)

variable {config : Record}

/-- A malformed configuration does not fit the rules of a payload. -/
theorem not_fits_of_malformed (malformed : Malformed config) :
    ¬ Record.Fits Payload.fieldRules config := by
  intro fits
  cases malformed with
  | unknownField member unknown => exact fits.keys _ member (.inl unknown)
  | strategyNotRecord given _ notRecord =>
      have admitted := fits.admitted _ (List.mem_of_getLast? rfl) _ given
      obtain ⟨fields, _, rfl, _⟩ := admitted
      exact nomatch notRecord
  | foreignField given named member foreign =>
      have admitted := fits.admitted _ (List.mem_of_getLast? rfl) _ given
      obtain ⟨fields, kind, isRecord, otherNamed, strategyFits⟩ := admitted
      obtain rfl := Value.record.inj isRecord
      -- The record names one kind only, so the foreign key is foreign to the rules as well.
      have sameText := Option.some.inj (named.symm.trans otherNamed)
      have sameKind := Strategy.selectedKind?_eq_some_iff.mpr sameText
      rw [Strategy.selectedKind?_eq_some_iff.mpr rfl] at sameKind
      obtain rfl := Option.some.inj sameKind
      have keys := strategyFits.keys _ member
      rw [Strategy.map_name_fieldRules] at keys
      exact keys (.inl foreign)

/-- Validation refuses a malformed configuration. -/
theorem refused_of_malformed (malformed : Malformed config) :
    ∃ fault more, Payload.ofRecord config = .refused fault more := by
  cases checked : Payload.ofRecord config with
  | refused fault more => exact ⟨fault, more, rfl⟩
  | accepted payload =>
      exact absurd (Payload.exists_ofRecord_iff.mp ⟨payload, checked⟩)
        (not_fits_of_malformed malformed)

/-! What is read of a configuration. -/

namespace GenerationOptions

/-- The fields that count in a strategy: its kind, and those of the kind that is asked for. -/
def strategyFieldNames
    (options : GenerationOptions)
    (strategy : Record) : List FieldName :=
  Field.kind :: ((options.selectedKind? strategy).map Strategy.fieldNames).getD []

/--
What is read of a strategy: the fields that count, and of other values whether
they are empty.
-/
def readStrategy
    (options : GenerationOptions)
    (value : Value) : Value :=
  match value.record? with
  | some fields => .record (Record.restrictedTo (options.strategyFieldNames fields) fields)
  | none => if value.isTruthy then value else .null

/-- What is read of a configuration: the fields of a payload, and of the strategy what is read. -/
def readPart
    (options : GenerationOptions)
    (config : Record) : Record :=
  (Record.restrictedTo Payload.fieldNames config).map fun entry =>
    (entry.1,
      if Field.logicConfig.spells entry.1 then options.readStrategy entry.2 else entry.2)

variable {options : GenerationOptions} {first second : Record} {name : FieldName}

/--
What is read of a configuration gives a field's key as before, the strategy
restricted to its fields.
-/
theorem get?_readPart
    {key : String}
    (member : name ∈ Payload.fieldNames)
    (spells : name.spells key = true) :
    Record.get? (options.readPart config) key =
      (Record.get? config key).map fun value =>
        if Field.logicConfig.spells key then options.readStrategy value else value := by
  rw [readPart, Record.get?_map_values fun key value =>
      if Field.logicConfig.spells key then options.readStrategy value else value,
    Record.get?_restrictedTo member spells]

theorem configured_readPart
    (member : name ∈ Payload.fieldNames)
    (notStrategy : name ≠ Field.logicConfig) :
    configured (options.readPart config) name = configured config name := by
  have same (key : String) (spells : name.spells key = true) :
      Record.get? (options.readPart config) key = Record.get? config key := by
    have apart : Field.logicConfig.spells key = false := by
      refine Bool.eq_false_iff.mpr fun isStrategy => notStrategy ?_
      exact Payload.areDistinct_fieldNames.eq_of_spells member (by decide) spells isStrategy
    rw [get?_readPart member spells, apart]
    exact Option.map_id_apply
  rw [configured, configured, same _ FieldName.spells_snake, same _ FieldName.spells_camel]

theorem strategy_readPart :
    configured (options.readPart config) Field.logicConfig =
      options.readStrategy (configured config Field.logicConfig) := by
  have member : Field.logicConfig ∈ Payload.fieldNames := by decide
  rw [configured, configured, get?_readPart member FieldName.spells_snake,
    get?_readPart member FieldName.spells_camel, FieldName.spells_snake, FieldName.spells_camel]
  simp only [if_true, ← Option.map_or]
  cases (Record.get? config Field.logicConfig.snake).or
    (Record.get? config Field.logicConfig.camel) <;> rfl

/-- A strategy is read as a record exactly when it is one. -/
theorem record?_readStrategy (value : Value) :
    (options.readStrategy value).record? =
      value.record?.map fun fields =>
        Record.restrictedTo (options.strategyFieldNames fields) fields := by
  rw [readStrategy]
  cases isRecord : value.record? with
  | some fields => rfl
  | none =>
      dsimp only
      split
      · rw [isRecord]
        rfl
      · rfl

theorem isTruthy_readStrategy
    {value : Value}
    (notRecord : value.record? = none) :
    (options.readStrategy value).isTruthy = value.isTruthy := by
  rw [readStrategy, notRecord]
  cases truthy : value.isTruthy with
  | true => exact truthy
  | false => rfl

theorem kind_mem_strategyFieldNames (strategy : Record) :
    Field.kind ∈ options.strategyFieldNames strategy :=
  List.mem_cons_self

/-- The fields of the kind that is selected are read. -/
theorem mem_strategyFieldNames
    {strategy : Record}
    {kind : StrategyKind}
    (selected : options.selectedKind? strategy = some kind)
    (member : name ∈ Strategy.fieldNames kind) :
    name ∈ options.strategyFieldNames strategy := by
  rw [strategyFieldNames, selected]
  exact List.mem_cons_of_mem _ member

/-- Strategies of which the same is read count alike in every field that is taken from them. -/
theorem strategyAlike_of_read
    (same :
      Record.restrictedTo (options.strategyFieldNames first) first =
        Record.restrictedTo (options.strategyFieldNames second) second) :
    options.StrategyAlike first second := by
  have sameKind : configured first Field.kind = configured second Field.kind := by
    rw [← Record.configured_restrictedTo (options.kind_mem_strategyFieldNames first), same,
      Record.configured_restrictedTo (options.kind_mem_strategyFieldNames second)]
  refine ⟨.inr sameKind, fun kind selected name member => .inr ?_⟩
  have otherSelected : options.selectedKind? second = some kind := by
    rw [← selected, selectedKind?, selectedKind?, kindWith, kindWith, sameKind]
  rw [← Record.configured_restrictedTo (mem_strategyFieldNames selected member), same,
    Record.configured_restrictedTo (mem_strategyFieldNames otherSelected member)]

/-- A configured value that is no record is refused as a strategy unless it is empty. -/
theorem configuredStrategy_of_notRecord
    (notRecord : (configured config Field.logicConfig).record? = none) :
    configuredStrategy config =
      if (configured config Field.logicConfig).isTruthy then .error .strategyNotRecord
      else .ok [] := by
  rw [configuredStrategy]
  cases given : configured config Field.logicConfig with
  | record fields => rw [given] at notRecord; cases notRecord
  | _ => rfl

/-- Configurations of which the same is read make no difference. -/
theorem indifferent_of_read (same : options.readPart first = options.readPart second) :
    options.Indifferent first second where
  fields name member notStrategy := by
    refine .inr ?_
    rw [← @configured_readPart first options name member notStrategy, same,
      configured_readPart member notStrategy]
  strategy := by
    have sameStrategy : options.readStrategy (configured first Field.logicConfig) =
        options.readStrategy (configured second Field.logicConfig) := by
      rw [← strategy_readPart, same, strategy_readPart]
    have sameRecord := congrArg Value.record? sameStrategy
    rw [record?_readStrategy, record?_readStrategy] at sameRecord
    cases isRecord : (configured first Field.logicConfig).record? with
    | some fields =>
        rw [isRecord, Option.map_some, eq_comm, Option.map_eq_some_iff] at sameRecord
        obtain ⟨others, otherRecord, sameRead⟩ := sameRecord
        have gathered := configuredStrategy_of_record (Value.record?_eq_some_iff.mp isRecord)
        have otherGathered :=
          configuredStrategy_of_record (Value.record?_eq_some_iff.mp otherRecord)
        exact .inr ⟨fields, others, gathered, otherGathered, strategyAlike_of_read sameRead.symm⟩
    | none =>
        rw [isRecord, Option.map_none, eq_comm, Option.map_eq_none_iff] at sameRecord
        have sameTruth := congrArg Value.isTruthy sameStrategy
        rw [isTruthy_readStrategy isRecord, isTruthy_readStrategy sameRecord] at sameTruth
        rw [configuredStrategy_of_notRecord isRecord, configuredStrategy_of_notRecord sameRecord,
          sameTruth]
        split
        · exact .inl ⟨_, rfl, rfl⟩
        · exact .inr ⟨[], [], rfl, rfl, strategyAlike_of_read rfl⟩

end GenerationOptions

/-! Runs from a malformed configuration. -/

section Runs

variable {settings : Settings} {workspace : Workspace} {location : Location}
  {words : List String} {source : String} {standardInput : List UInt8}
  {options : GenerationOptions}

/-- A run with a configured strategy that is neither a record nor empty fails and prints nothing. -/
theorem Workspace.run_of_strategyNotRecord
    (configures : workspace.Configures location words source options)
    (loaded : (workspace.surroundings standardInput).config options.config = .ok config)
    (notRecord : (configured config Field.logicConfig).record? = none)
    (truthy : (configured config Field.logicConfig).isTruthy = true) :
    (workspace.run settings standardInput words).1.exit = 1 ∧
      (workspace.run settings standardInput words).1.output = "" := by
  obtain ⟨logLevel, invoked⟩ := configures.invoked
  have refused := GenerationOptions.configuredStrategy_of_notRecord notRecord
  rw [truthy, if_pos rfl] at refused
  have failed : ∃ fault, GenerationRequest.gather settings (workspace.surroundings standardInput)
      source options = .error fault := by
    cases read : (workspace.surroundings standardInput).sourceText source with
    | error fault =>
        refine ⟨fault, ?_⟩
        rw [GenerationRequest.gather, read, Outcome.error_bind]
    | ok text =>
        refine ⟨.strategyNotRecord, ?_⟩
        rw [gather_of_loaded read loaded, refused]
        rfl
  obtain ⟨fault, failed⟩ := failed
  simp only [Workspace.run, invoked, start, runGenerate, failed, Progress.keepEntries]
  exact ⟨rfl, rfl⟩

/--
Validation refuses every malformed configuration.  A run from it fails only if
its strategy is neither a record nor empty, or for what is read of it: every
configuration of which the same is read has the same outcome.
-/
theorem Workspace.run_of_malformed
    (configures : workspace.Configures location words source options)
    (loaded : (workspace.surroundings standardInput).config options.config = .ok config) :
    (Malformed config → ∃ fault more, Payload.ofRecord config = .refused fault more) ∧
    ((configured config Field.logicConfig).record? = none →
      (configured config Field.logicConfig).isTruthy = true →
      (workspace.run settings standardInput words).1.exit = 1 ∧
        (workspace.run settings standardInput words).1.output = "") ∧
    ∀ replacement other,
      ((workspace.put location replacement).surroundings standardInput).config options.config =
        .ok other →
      options.readPart config = options.readPart other →
      ((workspace.put location replacement).run settings standardInput words).1 =
        (workspace.run settings standardInput words).1 := by
  refine ⟨refused_of_malformed, Workspace.run_of_strategyNotRecord configures loaded, ?_⟩
  intro replacement other reloaded same
  exact Workspace.run_of_indifferent configures loaded reloaded
    (GenerationOptions.indifferent_of_read same)

end Runs

/-! A configuration with a misspelt distance. -/

/-- The period's indicator with a configuration file. -/
def periodWorkspaceWith (content : String) : Workspace :=
  configuredWorkspace (Text.encodeText periodSource) (Text.encodeText content)

/-- The words configure a generation with the file, whatever it holds. -/
theorem configures_periodWorkspaceWith (content : String) :
    (periodWorkspaceWith content).Configures ["RSI.yaml"] (configuredWords "RSI.mq4" "RSI.yaml")
      "RSI.mq4" (.ofConfig (Path.ofText "RSI.yaml")) :=
  configures_configuredWorkspace _ _ (ofWords?_configuredWords (by decide)) rfl rfl

/-- What a file with the misspelt distance says. -/
def misspeltConfig : Record :=
  [("stopLos", .integer 50)]

theorem config_misspelt :
    ((periodWorkspaceWith "stopLos: 50\n").surroundings []).config
      (some (Path.ofText "RSI.yaml")) = .ok misspeltConfig := by
  decide +kernel

theorem malformed_misspeltConfig : Malformed misspeltConfig :=
  .unknownField List.mem_cons_self (by decide)

/-- A misspelt stop-loss is passed over, and the run succeeds as without it. -/
theorem run_of_malformed_misspelt :
    (∃ fault more, Payload.ofRecord misspeltConfig = .refused fault more) ∧
    (((periodWorkspaceWith "stopLos: 50\n").put ["RSI.yaml"] []).run .standard []
        (configuredWords "RSI.mq4" "RSI.yaml")).1 =
      ((periodWorkspaceWith "stopLos: 50\n").run .standard []
        (configuredWords "RSI.mq4" "RSI.yaml")).1 ∧
    ((periodWorkspaceWith "logicConfig: later\n").run .standard []
        (configuredWords "RSI.mq4" "RSI.yaml")).1.exit = 1 := by
  have empty : (((periodWorkspaceWith "stopLos: 50\n").put ["RSI.yaml"] []).surroundings []).config
      (some (Path.ofText "RSI.yaml")) = .ok [] := by
    decide +kernel
  have laterLoaded : ((periodWorkspaceWith "logicConfig: later\n").surroundings []).config
      (some (Path.ofText "RSI.yaml")) = .ok [("logicConfig", .text "later")] := by
    decide +kernel
  obtain ⟨refused, _, sameOutcome⟩ := @Workspace.run_of_malformed _ .standard _ _ _ _ _ _
    (configures_periodWorkspaceWith _) config_misspelt
  obtain ⟨_, fails, _⟩ := @Workspace.run_of_malformed _ .standard _ _ _ _ _ _
    (configures_periodWorkspaceWith _) laterLoaded
  exact ⟨refused malformed_misspeltConfig, sameOutcome [] [] empty rfl, (fails rfl rfl).1⟩

/-- What the program takes where the distance is misspelt: its own settings. -/
def unconfiguredPayload : Payload where
  indicatorName := ⟨"RSI", .refl false, .refl true⟩
  indicatorCode := periodSource
  timeframe := Payload.chartTimeframe
  lots := Payload.tenthOfLot
  slippage := Payload.standardSlippage
  stopLoss := 300
  takeProfit := 600
  magicNumber := Payload.standardMagicNumber
  strategy := .crossover ⟨0, 1, false, false⟩

/-- A malformed configuration from which a run succeeds, with a distance that it does not give. -/
theorem run_misspelt_succeeds :
    ((periodWorkspaceWith "stopLos: 50\n").surroundings []).config
      (some (Path.ofText "RSI.yaml")) = .ok misspeltConfig ∧
    Malformed misspeltConfig ∧
    ∃ code, unconfiguredPayload.compose none = .ok code ∧
      ((periodWorkspaceWith "stopLos: 50\n").run .standard []
        (configuredWords "RSI.mq4" "RSI.yaml")).1.exit = 0 ∧
      ((periodWorkspaceWith "stopLos: 50\n").run .standard []
        (configuredWords "RSI.mq4" "RSI.yaml")).1.output = code := by
  refine ⟨config_misspelt, malformed_misspeltConfig, ?_⟩
  have noClashes : Parameter.clashes (unconfiguredPayload.effectiveParameters none) = [] :=
    (congrArg Parameter.clashes parameters_periodSource).trans (by decide)
  have composed : unconfiguredPayload.compose none = _ :=
    Payload.composeWith_eq_ok_iff.mpr ⟨noClashes, rfl⟩
  refine ⟨_, composed, ?_⟩
  let request : GenerationRequest :=
    ⟨.standard, "RSI.mq4", periodSource, .ofConfig (Path.ofText "RSI.yaml"), misspeltConfig, []⟩
  have read : ((periodWorkspaceWith "stopLos: 50\n").surroundings []).sourceText "RSI.mq4" =
      .ok periodSource := by
    decide +kernel
  have gathered : GenerationRequest.gather .standard
      ((periodWorkspaceWith "stopLos: 50\n").surroundings []) "RSI.mq4"
      (.ofConfig (Path.ofText "RSI.yaml")) = .ok request := by
    rw [gather_of_loaded read config_misspelt]
    rfl
  have written : request.payload ((periodWorkspaceWith "stopLos: 50\n").surroundings []) =
      .ok (unconfiguredPayload.toRecord .snake) := by
    decide +kernel
  have isCode : request.compose (unconfiguredPayload.toRecord .snake) = _ :=
    compose_toRecord rfl
  rw [composed] at isCode
  simp only [Workspace.run, ofWords?_configuredWords (by decide : isOption "RSI.mq4" = false),
    start, runGenerate, gathered, written, isCode]
  exact ⟨rfl, rfl⟩

end Command

end ExpertAdvisor
