import ExpertAdvisor.Proofs.Command.ConfiguredRun
import ExpertAdvisor.Proofs.Command.ReplacedFile

namespace ExpertAdvisor.Command

/-!
# Delivered code

A generation has a single effect, and it comes last: the composed code is
printed, or it becomes the content of a file.  Whatever can fail comes before,
so a run that fails has printed nothing and leaves the workspace as it was.
-/

/-! Files that are written. -/

namespace Workspace

variable {workspace : Workspace} {location : Location} {content : List UInt8}

end Workspace

/-! Generations. -/

/-- The code that a generation composes, unless one of its steps fails. -/
def composedCode
    (settings : Settings)
    (surroundings : Surroundings)
    (source : String)
    (options : GenerationOptions) : Except CommandFault String := do
  let request ← GenerationRequest.gather settings surroundings source options
  let payload ← request.payload surroundings
  request.compose payload

section Runs

variable {workspace : Workspace} {settings : Settings} {standardInput : List UInt8}
  {words : List String} {logLevel source : String} {options : GenerationOptions}

end Runs

/-! A run that saves its code in a file beside the indicator. -/

/-- What the words ask for. -/
def savingOptions : GenerationOptions where
  config := none
  output := some ⟨"", ["RSI_EA.mq4"]⟩
  snippetFile := none
  name := none
  timeframe := none
  lots := none
  slippage := none
  stopLoss := none
  takeProfit := none
  magicNumber := none
  kind := none
  fastBuffer := none
  slowBuffer := none
  reversed := none
  stacking := none
  buffer := none
  upper := none
  lower := none
  direction := none

end ExpertAdvisor.Command
