import ExpertAdvisor.Command.Generation
import ExpertAdvisor.Json.Printer
import ExpertAdvisor.Terminal.Table

namespace ExpertAdvisor.Command

/-!
# Running a command

A run ends with an outcome: what is printed, what is told to the user, the
journal and the exit status.  Generated code is delivered once, to standard
output or to a file, and a run that fails prints nothing.
-/

/-- How a run ended. -/
structure Outcome where
  exit : Nat
  output : String
  messages : List String
  entries : List Entry
  fault : Option CommandFault
  deriving DecidableEq, Repr

/-- How far a run gets before its output is delivered. -/
inductive Progress where
  | finished (outcome : Outcome)
  | writing (path : Path) (code : String) (parameterCount : Nat)
      (messages : List String) (entries : List Entry)
  deriving Repr

/-- The message of a fault, unless nothing handles it. -/
def faultMessages (fault : CommandFault) : List String :=
  if fault.unhandled?.isSome then [] else ["Error: " ++ Terminal.shown fault.message]

namespace Outcome

/-- A run that printed something. -/
def succeeded
    (output : String)
    (messages : List String)
    (entries : List Entry) : Outcome :=
  ⟨0, output, messages, entries, none⟩

/-- The outcome of a run that fails: exit code 1, and the fault behind the messages so far. -/
def failed
    (messages : List String)
    (entries : List Entry)
    (fault : CommandFault) : Outcome :=
  ⟨1, "", messages ++ faultMessages fault, entries ++ fault.entries, some fault⟩

/-- The messages as a terminal is sent them. -/
def messageText (outcome : Outcome) : String :=
  String.join (outcome.messages.map Terminal.printed)

/-- The exception that ended a run. -/
def unhandled? (outcome : Outcome) : Option RealFault :=
  outcome.fault.bind CommandFault.unhandled?

end Outcome

/-! The listing of parameters -/

/-- What the listing says where there are no parameters. -/
def noParameters : String :=
  Terminal.printed "No input or extern parameters were detected."

/-- The table that lists parameters. -/
def parameterTable (parameters : List Parameter) : Terminal.Table where
  title := "Detected parameters (" ++ Number.naturalText parameters.length ++ ")"
  heads := ["Name", "Default"]
  rows := parameters.map fun parameter => [parameter.name, parameter.default]

/-- The JSON that lists parameters. -/
def parameterJson (parameters : List Parameter) : String :=
  Json.print (.indented 0) (Parameter.listToValue .camel parameters) ++ "\n"

/-- What a listing prints. -/
def listing
    (asJson : Bool)
    (parameters : List Parameter) : String :=
  if asJson then parameterJson parameters
  else if parameters.isEmpty then noParameters
  else (parameterTable parameters).text

/-- Lists the parameters of an indicator. -/
def runInputs
    (surroundings : Surroundings)
    (source : String)
    (asJson : Bool) : Outcome :=
  match surroundings.sourceText source with
  | .ok text =>
      .succeeded (listing asJson (Indicator.parameters text)) [] (Indicator.journal text)
  | .error fault => .failed [] [] fault

/-! Generation -/

/-- Generates an expert advisor as far as its delivery. -/
def runGenerate
    (settings : Settings)
    (surroundings : Surroundings)
    (source : String)
    (options : GenerationOptions) : Progress :=
  match GenerationRequest.gather settings surroundings source options with
  | .error fault => .finished (.failed [] [] fault)
  | .ok request =>
      let messages := request.warning?.toList
      match request.payload surroundings with
      | .error fault => .finished (.failed messages [] fault)
      | .ok payload =>
          let entries := request.journal payload
          match request.compose payload, options.output with
          | .error fault, _ => .finished (.failed messages entries fault)
          | .ok code, none => .finished (.succeeded code messages entries)
          | .ok code, some path =>
              .writing path code request.parameters.length messages entries

namespace Progress

/-- What is told of a file that was written. -/
def writtenMessage
    (path : Path)
    (parameterCount : Nat) : String :=
  "Wrote " ++ Terminal.shown path.text ++ " (" ++ Number.naturalText parameterCount ++
    " indicator parameters carried over)"

/-- Ends a run once its output has been delivered, or could not be. -/
def conclude
    (delivery : Except FileFault Unit) :
    Progress → Outcome
  | .finished outcome => outcome
  | .writing path _ parameterCount messages entries =>
      match delivery with
      | .ok () => .succeeded "" (messages ++ [writtenMessage path parameterCount]) entries
      | .error fault => .failed messages entries (.unwritableOutput path fault)

/-- A run with the log entries that are severe enough for it. -/
def keepEntries
    (verbosity : Verbosity) :
    Progress → Progress
  | .finished outcome => .finished { outcome with entries := verbosity.kept outcome.entries }
  | .writing path code parameterCount messages entries =>
      .writing path code parameterCount messages (verbosity.kept entries)

end Progress

/-! Invocations -/

/-- What the program says about its use. -/
def usage : String :=
  Text.joinLines
    ["Convert MQL4 indicators into Expert Advisors",
      "",
      "ea-builder [--log-level LEVEL] inputs SOURCE [--json]",
      "ea-builder [--log-level LEVEL] generate SOURCE [OPTIONS]",
      "",
      "SOURCE is a path to an .mq4 file or '-' for standard input.",
      ""]

/-- The outcome of words that make up no invocation. -/
def misused : Outcome :=
  ⟨2, "", ["Error: the command line is not understood; see --help"], [], none⟩

/-- Runs an invocation as far as its delivery. -/
def start
    (settings : Settings)
    (surroundings : Surroundings) :
    Invocation → Progress
  | .help => .finished (.succeeded usage [] [])
  | .run logLevel source task =>
      let progress : Progress :=
        match task with
        | .inputs asJson => .finished (runInputs surroundings source asJson)
        | .generate options => runGenerate settings surroundings source options
      progress.keepEntries (.ofName logLevel)

/-- What a run sees of a workspace, beside its standard input. -/
def Workspace.surroundings
    (workspace : Workspace)
    (standardInput : List UInt8) : Surroundings :=
  ⟨workspace.read, standardInput⟩

/-- Runs words in a workspace, and finds what the workspace is afterwards. -/
def Workspace.run
    (workspace : Workspace)
    (settings : Settings)
    (standardInput : List UInt8)
    (words : List String) : Outcome × Workspace :=
  match Invocation.ofWords? words with
  | none => (misused, workspace)
  | some invocation =>
      match start settings (workspace.surroundings standardInput) invocation with
      | .finished outcome => (outcome, workspace)
      | .writing path code parameterCount messages entries =>
          let progress := Progress.writing path code parameterCount messages entries
          match workspace.write path (Text.encodeText code) with
          | .ok written => (progress.conclude (.ok ()), written)
          | .error fault => (progress.conclude (.error fault), workspace)

end ExpertAdvisor.Command
