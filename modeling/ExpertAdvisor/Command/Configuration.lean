import ExpertAdvisor.Command.Fault
import ExpertAdvisor.Payload.Field
import ExpertAdvisor.Text.Lines
import ExpertAdvisor.Text.SourceEncoding
import ExpertAdvisor.Yaml.Reader

namespace ExpertAdvisor.Command

/-!
# Files that a command reads

The indicator's source is taken byte by byte; a configuration file and a snippet
are plain text whose line ends are unified.  A configuration file holds a record
of payload fields under either spelling, the snake case counting first.
-/

/-- What surrounds a run: the files that can be read, and the bytes on standard input. -/
structure Surroundings where
  read : Path → Except FileFault (List UInt8)
  standardInput : List UInt8

namespace Surroundings

/-- The bytes of a source, which a dash takes from standard input. -/
def sourceBytes
    (surroundings : Surroundings)
    (source : String) : Except CommandFault (List UInt8) :=
  if source == "-" then .ok surroundings.standardInput
  else (surroundings.read (Path.ofText source)).mapError (.unopenedSource source)

/-- The text of a source, which must be readable and be text. -/
def sourceText
    (surroundings : Surroundings)
    (source : String) : Except CommandFault String := do
  let bytes ← surroundings.sourceBytes source
  (Text.decodeSourceText bytes).mapError (.undecodedSource source)

end Surroundings

/-- The text of a plain file, with unified line ends. -/
def plainText (bytes : List UInt8) : Except Text.DecodingFault String :=
  (Text.decodePlainText bytes).map fun text =>
    String.ofList (Text.unifyLineEnds text.toList)

/--
The value that the bytes of a configuration file hold.  A document with a moment
that the calendar does not have counts as none, and so does one that escapes half
of a surrogate pair.
-/
def configValue (bytes : List UInt8) : Except ConfigFault Value := do
  let text ← (plainText bytes).mapError .undecoded
  match Yaml.read? text with
  | some value => return value
  | none => .error .notYaml

/-- The fields that a configuration file's value gives; an empty file gives none. -/
def configRecord
    (path : Path)
    (value : Value) : Except CommandFault Record :=
  match value with
  | .null => .ok []
  | .record fields => .ok fields
  | other => .error (.configNotRecord path other.kindName)

namespace Surroundings

/-- The fields that a configuration file gives, none without a file. -/
def config
    (surroundings : Surroundings) :
    Option Path → Except CommandFault Record
  | none => .ok []
  | some path => do
      let bytes ← (surroundings.read path).mapError fun fault =>
        .unreadableConfig path (.unopened fault)
      let value ← (configValue bytes).mapError (.unreadableConfig path)
      configRecord path value

/-- The snippet in a file, read as plain text. -/
def snippet
    (surroundings : Surroundings)
    (path : Path) : Except CommandFault String := do
  let bytes ← (surroundings.read path).mapError (.unopenedSnippet path)
  (plainText bytes).mapError (.undecodedSnippet path)

end Surroundings

/-- The value of a configured field, null where it is left out. -/
def configured
    (record : Record)
    (name : FieldName) : Value :=
  ((Record.get? record name.snake).or (Record.get? record name.camel)).getD .null

/-- The strategy that a configuration gives; an empty value gives no field. -/
def configuredStrategy (config : Record) : Except CommandFault Record :=
  let value := configured config Field.logicConfig
  if value.isTruthy then
    match value with
    | .record fields => .ok fields
    | _ => .error .strategyNotRecord
  else
    .ok []

/-- The first value that is not null. -/
def firstGiven : List Value → Value
  | [] => .null
  | value :: rest => if value.isNull then firstGiven rest else value

/-- A value that is not null hides those after it. -/
theorem firstGiven_cons_of_given
    {value : Value}
    (rest : List Value)
    (given : value.isNull = false) :
    firstGiven (value :: rest) = value := by
  simp [firstGiven, given]

end ExpertAdvisor.Command
