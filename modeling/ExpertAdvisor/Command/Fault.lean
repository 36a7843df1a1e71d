import ExpertAdvisor.Advisor.Composition
import ExpertAdvisor.Command.Workspace
import ExpertAdvisor.Text.DecodingFault
import ExpertAdvisor.Value.Real

namespace ExpertAdvisor.Command

/-!
# Why a command fails

Every fault but one is reported as a message.  The one that is not, an integer
beyond the range of binary64, ends the program as an unhandled exception.
-/

/-- Why a configuration file gives no value. -/
inductive ConfigFault where
  | unopened (fault : FileFault)
  | undecoded (fault : Text.DecodingFault)
  | notYaml
  deriving Repr, DecidableEq

namespace ConfigFault

/-- A fault with the path of its file in words. -/
def message
    (path : Path) :
    ConfigFault → String
  | .unopened fault => fault.message path
  | .undecoded fault => fault.message
  | .notYaml => "not a YAML document"

end ConfigFault

/-- Why a command fails. -/
inductive CommandFault where
  | unopenedSource (source : String) (fault : FileFault)
  | undecodedSource (source : String) (fault : Text.DecodingFault)
  | unreadableConfig (path : Path) (fault : ConfigFault)
  | configNotRecord (path : Path) (kindName : String)
  | strategyNotRecord
  | unopenedSnippet (path : Path) (fault : FileFault)
  | undecodedSnippet (path : Path) (fault : Text.DecodingFault)
  | missingSnippet
  | composition (kind : Value) (fault : CompositionFault)
  | unwritableOutput (path : Path) (fault : FileFault)
  | unusableNumber (fault : RealFault)
  deriving DecidableEq, Repr

namespace CommandFault

/-- A fault in words. -/
def message : CommandFault → String
  | .unopenedSource source fault =>
      "cannot read " ++ source ++ ": " ++ fault.message (Path.ofText source)
  | .undecodedSource source fault => source ++ " is not valid text: " ++ fault.message
  | .unreadableConfig path fault =>
      "cannot load config " ++ path.text ++ ": " ++ fault.message path
  | .configNotRecord path kindName =>
      "config " ++ path.text ++ " must contain a mapping, got " ++ kindName
  | .strategyNotRecord => "logicConfig in the config file must be a mapping"
  | .unopenedSnippet path fault =>
      "cannot read snippet " ++ path.text ++ ": " ++ fault.message path
  | .undecodedSnippet path fault =>
      "cannot read snippet " ++ path.text ++ ": " ++ fault.message
  | .missingSnippet =>
      "custom logic needs --snippet-file or logicConfig.snippet in the config file"
  | .composition _ fault => fault.message
  | .unwritableOutput path fault =>
      "cannot write " ++ path.text ++ ": " ++ fault.message path
  | .unusableNumber fault => fault.message

/-- The journal entries that tell of a fault. -/
def entries : CommandFault → List Entry
  | .composition kind fault =>
      [{ severity := .error
         module := "cli"
         event := "conversion_failed"
         fields := [("error", .text fault.message), ("logic_kind", kind)] }]
  | _ => []

/-- The fault that nothing handles. -/
def unhandled? : CommandFault → Option RealFault
  | .unusableNumber fault => some fault
  | _ => none

end CommandFault

end ExpertAdvisor.Command
