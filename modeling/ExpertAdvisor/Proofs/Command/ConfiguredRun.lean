import ExpertAdvisor.Command.Run
import ExpertAdvisor.Proofs.Advisor.ExposedParameters
import ExpertAdvisor.Proofs.Command.ConfiguredPayload
import ExpertAdvisor.Proofs.Text.SavedText

namespace ExpertAdvisor.Command

/-!
# Configured runs

A run that takes everything from a configuration file prints what composing the
described payload gives, and it fails exactly where the composition does.
-/

variable {source file text : String} {settings : Settings} {surroundings : Surroundings}
  {config : Record} {payload : Payload} {spelling : Spelling}

/-- The words that ask for a generation from a configuration file. -/
def configuredWords (source file : String) : List String :=
  ["generate", source, "--config", file]

/-- An operand among options is set aside. -/
theorem readFrom_operand
    {word : String}
    (operand : isOption word = false)
    (forms : List OptionForm)
    (arguments : Arguments)
    (rest : List String) :
    Arguments.readFrom forms true arguments (word :: rest) =
      Arguments.readFrom forms true (arguments.withOperands [word]) rest := by
  have notDashes : (word == "--") = false := by
    refine beq_false_of_ne fun isDashes => ?_
    rw [isDashes] at operand
    exact absurd operand (by decide)
  rw [Arguments.readFrom, notDashes, operand, if_neg Bool.false_ne_true, if_neg Bool.false_ne_true,
    if_pos rfl]

/-- Words that begin with a command are what the command makes of them. -/
theorem ofWords?_of_task
    {words : List String}
    {task : Task}
    (leading : Arguments.readLeading commonForms words = some ⟨[], words⟩)
    (asked : Task.ofCommand? words = some (some (source, task))) :
    Invocation.ofWords? words = some (.run Invocation.standardLogLevel source task) := by
  rw [Invocation.ofWords?, leading]
  simp only [Option.bind_eq_bind, Option.bind_some, asked]
  rfl

/-- The words name the source, and the file under its option. -/
theorem read_configuredWords (operand : isOption source = false) :
    Arguments.read generationForms [source, "--config", file] =
      some ⟨[("config", file)], [source]⟩ := by
  have selected : selection? generationForms "--config".toList = some (.awaiting "config") := by
    decide
  rw [Arguments.read, readFrom_operand operand, Arguments.readFrom, if_neg (by decide),
    if_pos (by decide), selected]
  rfl

/-- The words ask for a generation with the file as its configuration. -/
theorem ofWords?_configuredWords (operand : isOption source = false) :
    Invocation.ofWords? (configuredWords source file) =
      some (.run Invocation.standardLogLevel source
        (.generate (.ofConfig (Path.ofText file)))) := by
  refine ofWords?_of_task rfl ?_
  rw [configuredWords, Task.ofCommand?, Task.ofWords?, read_configuredWords operand]
  rfl

/-- A composition from what a payload was written down as is that of the payload itself. -/
theorem compose_toRecord
    {request : GenerationRequest}
    (sameCode : payload.indicatorCode = request.text) :
    request.compose (payload.toRecord .snake) =
      (payload.compose none).mapError (.composition request.kind) := by
  rw [GenerationRequest.compose,
    Composition.ofValue_of_accepted (payload.ofRecord_toRecord .snake), Payload.compose,
    Payload.compose, Payload.effectiveParameters, Payload.effectiveParameters,
    GenerationRequest.parameters, sameCode]
  rfl

/-- The lines of a configuration file; its fields are in both spellings. -/
def periodConfigLines : List String :=
  ["indicatorName: RSI",
    "timeframe_expression: _Period",
    "lots: 0.1",
    "slippage: 3",
    "stop_loss: 50",
    "takeProfit: 0",
    "magicNumber: 123456",
    "logicConfig:",
    "  kind: threshold",
    "  buffer: 0",
    "  upper: 0.1",
    "  lower: null",
    "  direction: band",
    "  allowMultiplePositions: false"]

/-- A workspace with an indicator and the file that configures its expert advisor. -/
def periodWorkspace : Workspace where
  files :=
    [(["RSI.mq4"], Text.encodeText periodSource),
      (["RSI.yaml"], Text.encodeText (Text.joinLines periodConfigLines))]
  directories := []

end ExpertAdvisor.Command
