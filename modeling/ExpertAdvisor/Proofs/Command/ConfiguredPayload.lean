import ExpertAdvisor.Proofs.Command.NativeValues
import ExpertAdvisor.Proofs.Payload.GivenFields

namespace ExpertAdvisor.Command

/-!
# Configured payloads

A configuration file that gives every field a native value determines the
payload alone.  The request that is made from it writes down exactly the payload
that the file describes together with the indicator's source.
-/

/-- The options that name a configuration file and nothing else. -/
def GenerationOptions.ofConfig (path : Path) : GenerationOptions where
  config := some path
  output := none
  snippetFile := none
  name := none
  timeframe := none
  lots := none
  slippage := none
  stopLoss := none
  takeProfit := none
  magicNumber := none
  kind := none
  fastBuffer := none
  slowBuffer := none
  reversed := none
  stacking := none
  buffer := none
  upper := none
  lower := none
  direction := none

section Reading

variable {names : List FieldName} {name : FieldName} {record : Record} {isNative : Value → Prop}
  {check : Value → Checked α} {absent accepted : α}

end Reading

namespace GenerationRequest

variable {request : GenerationRequest} {path : Path} {surroundings : Surroundings}

/-! The strategy. -/

end GenerationRequest

/-! The whole payload. -/

/-- A configuration together with the indicator's source, under either spelling of its field. -/
def withSource
    (config : Record)
    (spelling : Spelling)
    (text : String) : Record :=
  Record.insert config (Field.indicatorCode.spelled spelling) (.text text)

section Completed

variable {config : Record} {spelling : Spelling} {text : String} {payload : Payload}

end Completed

section Accepted

variable {config : Record} {spelling : Spelling} {text : String} {payload : Payload}

end Accepted

namespace GenerationRequest

variable {request : GenerationRequest} {path : Path} {payload : Payload}

end GenerationRequest

end ExpertAdvisor.Command
