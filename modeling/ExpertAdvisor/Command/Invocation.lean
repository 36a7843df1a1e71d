import ExpertAdvisor.Command.Arguments
import ExpertAdvisor.Command.Path
import ExpertAdvisor.Number.Numeral
import ExpertAdvisor.Payload.Scalar

namespace ExpertAdvisor.Command

/-!
# Invocations

The program has two commands.  One lists the parameters of an indicator, the
other generates an expert advisor, with options that stand above its
configuration file.  Words that make up no invocation are refused as a whole.
-/

/-- The options of generation, each given or not. -/
structure GenerationOptions where
  config : Option Path
  output : Option Path
  snippetFile : Option Path
  name : Option String
  timeframe : Option String
  lots : Option Binary64
  slippage : Option Int
  stopLoss : Option Int
  takeProfit : Option Int
  magicNumber : Option Int
  kind : Option String
  fastBuffer : Option Int
  slowBuffer : Option Int
  reversed : Option Bool
  stacking : Option Bool
  buffer : Option Int
  upper : Option String
  lower : Option String
  direction : Option String
  deriving Repr, DecidableEq

/-- What the program is asked to do with an indicator's source. -/
inductive Task where
  | inputs (asJson : Bool)
  | generate (options : GenerationOptions)
  deriving Repr, DecidableEq

/-- What the program is asked for. -/
inductive Invocation where
  | help
  | run (logLevel source : String) (task : Task)
  deriving Repr, DecidableEq

/-- The option that asks for help. -/
def helpForm : OptionForm :=
  .constant "help" "--help" ""

/-- The options that stand before the command. -/
def commonForms : List OptionForm :=
  [helpForm, .valued "log level" "--log-level"]

/-- The options of a listing. -/
def inputsForms : List OptionForm :=
  [helpForm, .constant "json" "--json" ""]

/-- The values of options that switch something on or off. -/
def switchWords : List (String × Bool) :=
  [("on", true), ("off", false)]

/-- The options of a generation, under their long and short spellings. -/
def generationForms : List OptionForm :=
  [helpForm,
    .valued "config" "--config", .valued "config" "-c",
    .valued "output" "--output", .valued "output" "-o",
    .valued "snippet file" "--snippet-file",
    .valued "name" "--name", .valued "name" "-n",
    .valued "timeframe" "--timeframe", .valued "timeframe" "-t",
    .valued "lots" "--lots", .valued "slippage" "--slippage",
    .valued "stop loss" "--stop-loss", .valued "take profit" "--take-profit",
    .valued "magic" "--magic",
    .valued "logic" "--logic", .valued "logic" "-l",
    .valued "fast buffer" "--fast-buffer", .valued "slow buffer" "--slow-buffer",
    .constant "reverse" "--reverse" "on", .constant "reverse" "--no-reverse" "off",
    .constant "stacking" "--allow-multiple" "on",
    .constant "stacking" "--single-position" "off",
    .valued "buffer" "--buffer", .valued "upper" "--upper", .valued "lower" "--lower",
    .valued "direction" "--direction"]

namespace Arguments

/-- The value of an option that reads as something, if it is given. -/
def reading?
    (arguments : Arguments)
    (key : String)
    (read? : List Char → Option α) : Option (Option α) :=
  match arguments.value? key with
  | none => some none
  | some text => (read? text.toList).map some

/--
Reads an integer option, which may not be longer than any integer text.  Unlike
in values, the digits of other scripts are none in options: they end in a usage
error.
-/
def integerWord? (characters : List Char) : Option Int :=
  if Scalar.digitLimit < (characters.filter Char.isDigit).length then none
  else Number.integer? Text.asciiDigit? characters

/-- Reads a number option, in the same digits. -/
def realWord? (characters : List Char) : Option Binary64 :=
  Number.real? Text.asciiDigit? characters

/-- What a switch is set to, if it was given. -/
def switch?
    (arguments : Arguments)
    (key : String) : Option Bool :=
  (arguments.value? key).bind fun word => List.lookup word switchWords

/-- The path that an option gives. -/
def path?
    (arguments : Arguments)
    (key : String) : Option Path :=
  (arguments.value? key).map Path.ofText

/-- The options of generation, unless a number among them cannot be read. -/
def generationOptions? (arguments : Arguments) : Option GenerationOptions := do
  let lots ← arguments.reading? "lots" realWord?
  let slippage ← arguments.reading? "slippage" integerWord?
  let stopLoss ← arguments.reading? "stop loss" integerWord?
  let takeProfit ← arguments.reading? "take profit" integerWord?
  let magicNumber ← arguments.reading? "magic" integerWord?
  let fastBuffer ← arguments.reading? "fast buffer" integerWord?
  let slowBuffer ← arguments.reading? "slow buffer" integerWord?
  let buffer ← arguments.reading? "buffer" integerWord?
  return {
    config := arguments.path? "config"
    output := arguments.path? "output"
    snippetFile := arguments.path? "snippet file"
    name := arguments.value? "name"
    timeframe := arguments.value? "timeframe"
    lots := lots
    slippage := slippage
    stopLoss := stopLoss
    takeProfit := takeProfit
    magicNumber := magicNumber
    kind := arguments.value? "logic"
    fastBuffer := fastBuffer
    slowBuffer := slowBuffer
    reversed := arguments.switch? "reverse"
    stacking := arguments.switch? "stacking"
    buffer := buffer
    upper := arguments.value? "upper"
    lower := arguments.value? "lower"
    direction := arguments.value? "direction" }

/-- The only operand. -/
def source? (arguments : Arguments) : Option String :=
  match arguments.operands with
  | [source] => some source
  | _ => none

end Arguments

namespace Task

/-- The task that a command's words describe, with its source; none where help is asked for. -/
def ofWords?
    (forms : List OptionForm)
    (task? : Arguments → Option Task)
    (words : List String) : Option (Option (String × Task)) := do
  let arguments ← Arguments.read forms words
  if arguments.has helpForm.key then
    return none
  else
    let source ← arguments.source?
    let task ← task? arguments
    return some (source, task)

/-- The task that a subcommand's words ask for; none within where they ask for help. -/
def ofCommand? : List String → Option (Option (String × Task))
  | "inputs" :: words =>
      ofWords? inputsForms (fun arguments => some (.inputs (arguments.has "json"))) words
  | "generate" :: words =>
      ofWords? generationForms (fun arguments => arguments.generationOptions?.map .generate) words
  | _ => none

end Task

namespace Invocation

/-- The log level that holds unless another one is given. -/
def standardLogLevel : String := "WARNING"

/-- The invocation that all words ask for, if they make sense. -/
def ofWords? (words : List String) : Option Invocation := do
  let leading ← Arguments.readLeading commonForms words
  if leading.has helpForm.key then
    return .help
  else
    match ← Task.ofCommand? leading.operands with
    | none => return .help
    | some (source, task) =>
        return .run ((leading.value? "log level").getD standardLogLevel) source task

/-- The files that an invocation may read. -/
def readPaths : Invocation → List Path
  | .help => []
  | .run _ source task =>
      let sources := if source == "-" then [] else [Path.ofText source]
      match task with
      | .inputs _ => sources
      | .generate options => sources ++ options.config.toList ++ options.snippetFile.toList

/-- Whether an invocation reads its source from the standard input. -/
def readsStandardInput : Invocation → Bool
  | .help => false
  | .run _ source _ => source == "-"

end Invocation

end ExpertAdvisor.Command
