import ExpertAdvisor.Proofs.Command.ReplacedFile
import ExpertAdvisor.Proofs.Outcome
import ExpertAdvisor.Proofs.Payload.RespelledPayload

namespace ExpertAdvisor.Command

/-!
# Another configuration

A generation takes values from its configuration only where no option gives
them, and from the strategy only those of the kind that is asked for.  As long
as all of these are the same, another configuration makes no difference to it.
-/

namespace GenerationOptions

/-- The fields that options stand above, each with whether its option is given. -/
def fieldFlags (options : GenerationOptions) : List (FieldName × Bool) :=
  [(Field.indicatorName, options.name.isSome),
    (Field.timeframeExpression, options.timeframe.isSome),
    (Field.lots, options.lots.isSome),
    (Field.slippage, options.slippage.isSome),
    (Field.stopLoss, options.stopLoss.isSome),
    (Field.takeProfit, options.takeProfit.isSome),
    (Field.magicNumber, options.magicNumber.isSome),
    (Field.kind, options.kind.isSome),
    (Field.fastBuffer, options.fastBuffer.isSome),
    (Field.slowBuffer, options.slowBuffer.isSome),
    (Field.reverseSignal, options.reversed.isSome),
    (Field.allowMultiplePositions, options.stacking.isSome),
    (Field.buffer, options.buffer.isSome),
    (Field.upper, options.upper.isSome),
    (Field.lower, options.lower.isSome),
    (Field.direction, options.direction.isSome),
    (Field.snippet, options.snippetFile.isSome)]

/-- Whether an option gives a field. -/
def gives
    (options : GenerationOptions)
    (name : FieldName) : Bool :=
  (options.fieldFlags.lookup name).getD false

/-- A field counts alike in two records when an option gives it or the records do the same. -/
def CountsAlike
    (options : GenerationOptions)
    (first second : Record)
    (name : FieldName) : Prop :=
  options.gives name = true ∨ configured first name = configured second name

/-- The kind of the strategy that options and a configured strategy ask for. -/
def kindWith
    (options : GenerationOptions)
    (strategy : Record) : Value :=
  firstGiven
    [.ofOption .text options.kind, configured strategy Field.kind,
      .text StrategyKind.crossover.name]

/-- The kind that is asked for, when it is known. -/
def selectedKind?
    (options : GenerationOptions)
    (strategy : Record) : Option StrategyKind :=
  (options.kindWith strategy).text?.bind StrategyKind.ofName?

/-- Everything that is taken from a strategy under options is the same in another one. -/
structure StrategyAlike
    (options : GenerationOptions)
    (first second : Record) : Prop where
  kind : options.CountsAlike first second Field.kind
  fields : ∀ kind, options.selectedKind? first = some kind →
    ∀ name ∈ Strategy.fieldNames kind, options.CountsAlike first second name

/-- Options make no difference between two configurations. -/
structure Indifferent
    (options : GenerationOptions)
    (first second : Record) : Prop where
  fields : ∀ name ∈ Payload.fieldNames, name ≠ Field.logicConfig →
    options.CountsAlike first second name
  strategy :
    (∃ fault, configuredStrategy first = .error fault ∧
      configuredStrategy second = .error fault) ∨
    ∃ strategy other, configuredStrategy first = .ok strategy ∧
      configuredStrategy second = .ok other ∧ options.StrategyAlike strategy other

end GenerationOptions

/-- A configured record is the strategy, also when it is empty. -/
theorem configuredStrategy_of_record
    {config fields : Record}
    (isRecord : configured config Field.logicConfig = .record fields) :
    configuredStrategy config = .ok fields := by
  rw [configuredStrategy, isRecord]
  cases fields <;> rfl

/-- What stands behind an option does not matter where the option is given. -/
theorem firstGiven_settled
    {wrap : α → Value}
    {option : Option α}
    {value other : Value}
    (proper : ∀ content, (wrap content).isNull = false)
    (settled : option.isSome = true ∨ value = other)
    (rest : List Value) :
    firstGiven (.ofOption wrap option :: value :: rest) =
      firstGiven (.ofOption wrap option :: other :: rest) := by
  cases option with
  | none =>
      rcases settled with given | rfl
      · exact absurd given Bool.false_ne_true
      · rfl
  | some content =>
      rw [Value.ofOption, firstGiven_cons_of_given _ (proper content),
        firstGiven_cons_of_given _ (proper content)]

namespace GenerationRequest

/-- The same request with another configuration. -/
def reconfigured
    (request : GenerationRequest)
    (config strategy : Record) : GenerationRequest :=
  { request with config := config, strategy := strategy }

variable {request : GenerationRequest} {config strategy : Record}
  {surroundings others : Surroundings}

@[simp]
theorem options_reconfigured :
    (request.reconfigured config strategy).options = request.options := rfl

@[simp]
theorem strategy_reconfigured :
    (request.reconfigured config strategy).strategy = strategy := rfl

/-! The payload's own fields. -/

section Fields

variable (fields : ∀ name ∈ Payload.fieldNames, name ≠ Field.logicConfig →
  request.options.CountsAlike request.config config name)

include fields

/-- The name of the indicator is the same. -/
theorem indicatorName_reconfigured :
    (request.reconfigured config strategy).indicatorName = request.indicatorName :=
  (firstGiven_settled (fun _ => rfl)
    (fields Field.indicatorName (by decide) (by decide)) _).symm

theorem timeframe_reconfigured :
    (request.reconfigured config strategy).timeframe = request.timeframe :=
  (firstGiven_settled (fun _ => rfl)
    (fields Field.timeframeExpression (by decide) (by decide)) _).symm

theorem rawRisk_reconfigured :
    (request.reconfigured config strategy).rawRisk = request.rawRisk := by
  have lots := fields Field.lots (by decide) (by decide)
  have slippage := fields Field.slippage (by decide) (by decide)
  have stopLoss := fields Field.stopLoss (by decide) (by decide)
  have takeProfit := fields Field.takeProfit (by decide) (by decide)
  have magicNumber := fields Field.magicNumber (by decide) (by decide)
  simp only [rawRisk, riskNumber, reconfigured, RawRisk.mk.injEq]
  exact ⟨(firstGiven_settled (fun _ => rfl) lots _).symm,
    (firstGiven_settled (fun _ => rfl) slippage _).symm,
    (firstGiven_settled (fun _ => rfl) stopLoss _).symm,
    (firstGiven_settled (fun _ => rfl) takeProfit _).symm,
    (firstGiven_settled (fun _ => rfl) magicNumber _).symm⟩

end Fields

/-! The strategy. -/

/-- Whether positions are stacked is the same where the options settle it. -/
theorem stacking_reconfigured
    (settled :
      request.options.CountsAlike request.strategy strategy Field.allowMultiplePositions) :
    (request.reconfigured config strategy).stacking = request.stacking :=
  (firstGiven_settled (fun _ => rfl) settled _).symm

/-- A buffer is the same where an option gives it, or both configurations agree. -/
theorem bufferIndex_reconfigured
    {option : Option Int}
    {name : FieldName}
    (settled : option.isSome = true ∨
      configured request.strategy name = configured strategy name)
    (standard : Int) :
    (request.reconfigured config strategy).bufferIndex option name standard =
      request.bufferIndex option name standard := by
  rw [bufferIndex, bufferIndex, strategy_reconfigured,
    firstGiven_settled (fun _ => rfl) settled]

theorem level_reconfigured
    {option : Option String}
    {name : FieldName}
    (settled : option.isSome = true ∨
      configured request.strategy name = configured strategy name) :
    (request.reconfigured config strategy).level option name = request.level option name := by
  rw [level, level, strategy_reconfigured, firstGiven_settled (fun _ => rfl) settled]

section Strategy

variable (alike : request.options.StrategyAlike request.strategy strategy)

include alike

theorem kind_reconfigured :
    (request.reconfigured config strategy).kind = request.kind :=
  (firstGiven_settled (fun _ => rfl) alike.kind _).symm

/-- The fields of a crossover strategy are the same. -/
theorem crossoverFields_reconfigured
    (selected : request.options.selectedKind? request.strategy = some .crossover) :
    (request.reconfigured config strategy).crossoverFields = request.crossoverFields := by
  have settled := alike.fields .crossover selected
  have fast := @bufferIndex_reconfigured request config strategy _ _
    (settled Field.fastBuffer (by decide)) 0
  have slow := @bufferIndex_reconfigured request config strategy _ _
    (settled Field.slowBuffer (by decide)) 1
  have stacking := @stacking_reconfigured request config strategy
    (settled Field.allowMultiplePositions (by decide))
  have reversed := @firstGiven_settled _ Value.boolean _ _ _ (fun _ => rfl)
    (settled Field.reverseSignal (by decide)) [.boolean false]
  simp only [crossoverFields, options_reconfigured, strategy_reconfigured, fast, slow, stacking,
    reversed]

theorem thresholdFields_reconfigured
    (selected : request.options.selectedKind? request.strategy = some .threshold) :
    (request.reconfigured config strategy).thresholdFields = request.thresholdFields := by
  have settled := alike.fields .threshold selected
  have buffer := @bufferIndex_reconfigured request config strategy _ _
    (settled Field.buffer (by decide)) 0
  have upper := @level_reconfigured request config strategy _ _
    (settled Field.upper (by decide))
  have lower := @level_reconfigured request config strategy _ _
    (settled Field.lower (by decide))
  have stacking := @stacking_reconfigured request config strategy
    (settled Field.allowMultiplePositions (by decide))
  have direction := @firstGiven_settled _ Value.text _ _ _ (fun _ => rfl)
    (settled Field.direction (by decide)) [.text BreachDirection.band.name]
  simp only [thresholdFields, options_reconfigured, strategy_reconfigured, buffer, upper, lower,
    stacking, direction]

/-- A snippet file stands above a configured snippet, and has to be the same. -/
theorem snippet_reconfigured
    (sameFile : ∀ path ∈ request.options.snippetFile,
      others.snippet path = surroundings.snippet path)
    (selected : request.options.selectedKind? request.strategy = some .custom) :
    (request.reconfigured config strategy).snippet others = request.snippet surroundings := by
  have settled := alike.fields .custom selected Field.snippet (by decide)
  rw [snippet, snippet, options_reconfigured, strategy_reconfigured]
  cases file : request.options.snippetFile with
  | some path => dsimp only; rw [sameFile path file]
  | none =>
      have noFile : request.options.gives Field.snippet = false := congrArg Option.isSome file
      rcases settled with given | same
      · exact absurd (noFile.symm.trans given) Bool.false_ne_true
      · simp only [same]

/-- The fields of the strategy are the same, while the snippet's file is. -/
theorem strategyFields_reconfigured
    (sameFile : ∀ path ∈ request.options.snippetFile,
      others.snippet path = surroundings.snippet path) :
    (request.reconfigured config strategy).strategyFields others =
      request.strategyFields surroundings := by
  rw [strategyFields, strategyFields, kind_reconfigured alike]
  cases selected : request.kind.text?.bind StrategyKind.ofName? with
  | none => rfl
  | some kind =>
      cases kind with
      | crossover => exact crossoverFields_reconfigured alike selected
      | threshold => exact thresholdFields_reconfigured alike selected
      | custom => simp only [snippet_reconfigured alike sameFile selected]

end Strategy

/-! The whole request. -/

/-- The whole payload is the same. -/
theorem payload_reconfigured
    (fields : ∀ name ∈ Payload.fieldNames, name ≠ Field.logicConfig →
      request.options.CountsAlike request.config config name)
    (alike : request.options.StrategyAlike request.strategy strategy)
    (sameFile : ∀ path ∈ request.options.snippetFile,
      others.snippet path = surroundings.snippet path) :
    (request.reconfigured config strategy).payload others = request.payload surroundings := by
  rw [payload, payload, rawRisk_reconfigured fields, indicatorName_reconfigured fields,
    timeframe_reconfigured fields, kind_reconfigured alike,
    strategyFields_reconfigured alike sameFile]
  rfl

/-- The warning and the composition are the same as well. -/
theorem warning?_reconfigured
    (fields : ∀ name ∈ Payload.fieldNames, name ≠ Field.logicConfig →
      request.options.CountsAlike request.config config name) :
    (request.reconfigured config strategy).warning? = request.warning? := by
  rw [warning?, warning?, indicatorName_reconfigured fields]

/-- A payload is composed the same. -/
theorem compose_reconfigured
    (alike : request.options.StrategyAlike request.strategy strategy)
    (payload : Record) :
    (request.reconfigured config strategy).compose payload = request.compose payload := by
  rw [compose, compose, kind_reconfigured alike]
  rfl

end GenerationRequest

section Runs

variable {settings : Settings} {surroundings others : Surroundings} {source text : String}
  {options : GenerationOptions} {first second strategy : Record}

/-- What is gathered once the source and the configuration have been read. -/
theorem gather_of_loaded
    (read : surroundings.sourceText source = .ok text)
    (loaded : surroundings.config options.config = .ok first) :
    GenerationRequest.gather settings surroundings source options =
      (configuredStrategy first).map fun strategy =>
        ⟨settings, source, text, options, first, strategy⟩ := by
  simp only [GenerationRequest.gather, read, loaded, Outcome.ok_bind]
  cases configuredStrategy first <;> rfl

/-- A generation runs alike from two configurations between which options make no difference. -/
theorem runGenerate_of_indifferent
    (sameText : others.sourceText source = surroundings.sourceText source)
    (sameFile : ∀ path ∈ options.snippetFile, others.snippet path = surroundings.snippet path)
    (loaded : surroundings.config options.config = .ok first)
    (reloaded : others.config options.config = .ok second)
    (indifferent : options.Indifferent first second) :
    runGenerate settings others source options =
      runGenerate settings surroundings source options := by
  rw [runGenerate, runGenerate]
  cases read : surroundings.sourceText source with
  | error fault =>
      simp only [GenerationRequest.gather, sameText, read, Outcome.error_bind]
  | ok text =>
      have gather := @gather_of_loaded settings _ _ _ _ _ read loaded
      have regather := @gather_of_loaded settings _ _ _ _ _ (sameText.trans read) reloaded
      rcases indifferent.strategy with ⟨fault, refused, otherRefused⟩ |
        ⟨strategy, other, gathered, otherGathered, alike⟩
      · rw [gather, regather, refused, otherRefused]
        rfl
      · let request : GenerationRequest := ⟨settings, source, text, options, first, strategy⟩
        have isRequest : GenerationRequest.gather settings surroundings source options =
            .ok request := by rw [gather, gathered]; rfl
        have isReconfigured : GenerationRequest.gather settings others source options =
            .ok (request.reconfigured second other) := by rw [regather, otherGathered]; rfl
        have samePayload := @GenerationRequest.payload_reconfigured request second other
          surroundings others indifferent.fields alike sameFile
        have sameWarning := @GenerationRequest.warning?_reconfigured request second other
          indifferent.fields
        have sameCode := @GenerationRequest.compose_reconfigured request second other alike
        simp only [isRequest, isReconfigured, samePayload, sameWarning, sameCode]
        rfl

/-- Words ask for a generation that is configured by a file, which it reads as nothing else. -/
structure Workspace.Configures
    (workspace : Workspace)
    (location : Location)
    (words : List String)
    (source : String)
    (options : GenerationOptions) : Prop where
  invoked : ∃ logLevel,
    Invocation.ofWords? words = some (.run logLevel source (.generate options))
  config : ∃ path ∈ options.config, workspace.LeadsTo path location
  source : source ≠ "-" → ¬ workspace.LeadsTo (Path.ofText source) location
  snippet : ∀ path ∈ options.snippetFile, ¬ workspace.LeadsTo path location

variable {workspace : Workspace} {location : Location} {words : List String}
  {standardInput replacement : List UInt8}

/-- A run ends alike with another configuration file that makes no difference to its options. -/
theorem Workspace.run_of_indifferent
    (configures : workspace.Configures location words source options)
    (loaded : (workspace.surroundings standardInput).config options.config = .ok first)
    (reloaded :
      ((workspace.put location replacement).surroundings standardInput).config options.config =
        .ok second)
    (indifferent : options.Indifferent first second) :
    ((workspace.put location replacement).run settings standardInput words).1 =
      (workspace.run settings standardInput words).1 := by
  obtain ⟨logLevel, invoked⟩ := configures.invoked
  obtain ⟨path, _, content, found⟩ := configures.config
  have known := Workspace.content?_of_find found
  have sameStart := @runGenerate_of_indifferent settings _ _ source options _ _
    (Workspace.sourceText_replaced known configures.source)
    (fun path member => Workspace.snippet_replaced known (configures.snippet path member))
    loaded reloaded indifferent
  refine Workspace.run_replaced known invoked ?_
  simp only [start, sameStart]

end Runs

/-! A workspace with an indicator and a file that configures it. -/

/-- The workspace of an indicator and its configuration. -/
def configuredWorkspace (source config : List UInt8) : Workspace where
  files := [(["RSI.mq4"], source), (["RSI.yaml"], config)]
  directories := []

/-- The workspace has the words configure a generation. -/
theorem configures_configuredWorkspace
    {logLevel : String}
    {words : List String}
    {options : GenerationOptions}
    (source config : List UInt8)
    (invoked : Invocation.ofWords? words = some (.run logLevel "RSI.mq4" (.generate options)))
    (isConfig : options.config = some (Path.ofText "RSI.yaml"))
    (noSnippet : options.snippetFile = none) :
    (configuredWorkspace source config).Configures ["RSI.yaml"] words "RSI.mq4" options where
  invoked := ⟨logLevel, invoked⟩
  config := by
    have isName : Path.ofText "RSI.yaml" = ⟨"", ["RSI.yaml"]⟩ := by decide +kernel
    refine ⟨_, isConfig, config, ?_⟩
    rw [isName]
    rfl
  source _ := by
    have isName : Path.ofText "RSI.mq4" = ⟨"", ["RSI.mq4"]⟩ := by decide +kernel
    rintro ⟨content, found⟩
    rw [isName] at found
    exact absurd (Found.file.inj (Except.ok.inj found)).1 (by decide)
  snippet path member := by
    rw [noSnippet] at member
    exact nomatch member

end ExpertAdvisor.Command
