import ExpertAdvisor.Command.Configuration
import ExpertAdvisor.Command.Invocation
import ExpertAdvisor.Payload.Dump
import ExpertAdvisor.Risk.Normalization
import ExpertAdvisor.Terminal.Message

namespace ExpertAdvisor.Command

/-!
# Generating from options and a configuration

A value comes from the option, or else from the configuration file, or else from
the settings.  Raw numbers are normalised before the payload is validated, so a
number that cannot be used falls back instead of failing.  Only the fields of
the chosen kind of strategy are taken over.
-/

/-- Everything that a payload is made from. -/
structure GenerationRequest where
  settings : Settings
  source : String
  text : String
  options : GenerationOptions
  config : Record
  strategy : Record

namespace GenerationRequest

/-- The name of the indicator where none is given: that of its file, if it has one. -/
def standardName (request : GenerationRequest) : String :=
  if request.source == "-" then request.settings.indicatorName
  else (Path.ofText request.source).stem

/-- The name of the indicator: from the options, the configuration, or the source's own name. -/
def indicatorName (request : GenerationRequest) : Value :=
  firstGiven
    [.ofOption .text request.options.name, configured request.config Field.indicatorName,
      .text request.standardName]

/-- The timeframe: from the options, the configuration, or the settings. -/
def timeframe (request : GenerationRequest) : Value :=
  firstGiven
    [.ofOption .text request.options.timeframe,
      configured request.config Field.timeframeExpression, .text request.settings.timeframe]

/-- A number of the risk settings: from an option, the configuration, or the standard. -/
def riskNumber
    (request : GenerationRequest)
    (option : Option Int)
    (name : FieldName)
    (standard : Int) : Value :=
  firstGiven [.ofOption .integer option, configured request.config name, .integer standard]

/-- The risk settings before they are normalised. -/
def rawRisk (request : GenerationRequest) : RawRisk :=
  let options := request.options
  let settings := request.settings
  { lots :=
      firstGiven
        [.ofOption .real options.lots, configured request.config Field.lots, .real settings.lots]
    slippage := request.riskNumber options.slippage Field.slippage settings.slippage
    stopLoss := request.riskNumber options.stopLoss Field.stopLoss settings.stopLoss
    takeProfit := request.riskNumber options.takeProfit Field.takeProfit settings.takeProfit
    magicNumber := request.riskNumber options.magicNumber Field.magicNumber settings.magicNumber }

/-- The kind of the strategy: from the options, the configuration, or the crossover. -/
def kind (request : GenerationRequest) : Value :=
  firstGiven
    [.ofOption .text request.options.kind, configured request.strategy Field.kind,
      .text StrategyKind.crossover.name]

/-- Whether a strategy stacks positions, as it is given. -/
def stacking (request : GenerationRequest) : Value :=
  firstGiven
    [.ofOption .boolean request.options.stacking,
      configured request.strategy Field.allowMultiplePositions, .boolean false]

/-- A buffer's index: from an option, the configuration, or the standard, and never negative. -/
def bufferIndex
    (request : GenerationRequest)
    (option : Option Int)
    (name : FieldName)
    (standard : Int) : Except CommandFault Value := do
  let index ← (Normalize.bufferIndex (firstGiven
    [.ofOption .integer option, configured request.strategy name, .integer standard])).mapError
      .unusableNumber
  return .integer index

/-- A level, normalised; a blank option sets none. -/
def level
    (request : GenerationRequest)
    (option : Option String)
    (name : FieldName) : Except CommandFault Value := do
  let level ← (Normalize.threshold (firstGiven
    [.ofOption .text option, configured request.strategy name])).mapError .unusableNumber
  return .ofOption FiniteBinary64.toValue level

/-- The fields of a crossover strategy, apart from its kind. -/
def crossoverFields (request : GenerationRequest) :
    Except CommandFault (List (FieldName × Value)) := do
  let options := request.options
  let fast ← request.bufferIndex options.fastBuffer Field.fastBuffer 0
  let slow ← request.bufferIndex options.slowBuffer Field.slowBuffer 1
  let reversed :=
    firstGiven
      [.ofOption .boolean options.reversed, configured request.strategy Field.reverseSignal,
        .boolean false]
  return [(Field.fastBuffer, fast), (Field.slowBuffer, slow),
    (Field.allowMultiplePositions, request.stacking), (Field.reverseSignal, reversed)]

/-- The fields of a threshold strategy, apart from its kind. -/
def thresholdFields (request : GenerationRequest) :
    Except CommandFault (List (FieldName × Value)) := do
  let options := request.options
  let buffer ← request.bufferIndex options.buffer Field.buffer 0
  let upper ← request.level options.upper Field.upper
  let lower ← request.level options.lower Field.lower
  let direction :=
    firstGiven
      [.ofOption .text options.direction, configured request.strategy Field.direction,
        .text BreachDirection.band.name]
  return [(Field.buffer, buffer), (Field.upper, upper), (Field.lower, lower),
    (Field.direction, direction), (Field.allowMultiplePositions, request.stacking)]

/-- The snippet: that of the snippet file, or else the configured one. -/
def snippet
    (surroundings : Surroundings)
    (request : GenerationRequest) : Except CommandFault Value := do
  let snippet ←
    match request.options.snippetFile with
    | some path => (surroundings.snippet path).map .text
    | none => .ok (configured request.strategy Field.snippet)
  if snippet.isNull then .error .missingSnippet else return snippet

/-- The fields that the kind of the strategy asks for; an unknown kind asks for none. -/
def strategyFields
    (surroundings : Surroundings)
    (request : GenerationRequest) : Except CommandFault (List (FieldName × Value)) :=
  match request.kind.text?.bind StrategyKind.ofName? with
  | some .crossover => request.crossoverFields
  | some .threshold => request.thresholdFields
  | some .custom => (request.snippet surroundings).map fun snippet => [(Field.snippet, snippet)]
  | none => .ok []

/-- The payload as a record in snake case. -/
def payload
    (surroundings : Surroundings)
    (request : GenerationRequest) : Except CommandFault Record := do
  let risk ← (request.rawRisk.normalize request.settings).mapError .unusableNumber
  let strategy ← request.strategyFields surroundings
  return FieldName.write .snake
      [(Field.indicatorName, request.indicatorName), (Field.indicatorCode, .text request.text),
        (Field.timeframeExpression, request.timeframe)] ++
    risk.toRecord ++
    FieldName.write .snake
      [(Field.logicConfig,
        .record (FieldName.write .snake ((Field.kind, request.kind) :: strategy)))]

/-- The parameters that are carried over. -/
def parameters (request : GenerationRequest) : List Parameter :=
  Indicator.parameters request.text

/-- The warning about a name that is no bare indicator name. -/
def warning? (request : GenerationRequest) : Option String :=
  let name := request.indicatorName
  if Normalize.isIndicatorName name then none
  else
    some ("Warning: " ++ Terminal.shown name.literal ++
      " does not look like a bare indicator file name; " ++
      "iCustom expects the name without path or extension")

/-- The log entries of a generation: those of the extraction, then those of the composition. -/
def journal
    (request : GenerationRequest)
    (payload : Record) : List Entry :=
  Indicator.journal request.text ++
    Composition.journalOfValue (.record payload) (some request.parameters)

/-- Composes the payload of a generation with the parameters of its indicator. -/
def compose
    (request : GenerationRequest)
    (payload : Record) : Except CommandFault String :=
  (Composition.ofValue (.record payload) (some request.parameters)).mapError
    (.composition request.kind)

end GenerationRequest

/-- Gathers everything that a payload is made from. -/
def GenerationRequest.gather
    (settings : Settings)
    (surroundings : Surroundings)
    (source : String)
    (options : GenerationOptions) : Except CommandFault GenerationRequest := do
  let text ← surroundings.sourceText source
  let config ← surroundings.config options.config
  let strategy ← configuredStrategy config
  return {
    settings := settings
    source := source
    text := text
    options := options
    config := config
    strategy := strategy }

end ExpertAdvisor.Command
