import ExpertAdvisor.Json.Reader
import ExpertAdvisor.Payload.Validation
import ExpertAdvisor.Settings.Assignment
import ExpertAdvisor.Settings.Basic

namespace ExpertAdvisor.Settings

/-!
# Loading settings

Settings are read from the environment and from an assignment file.  The
environment wins.  The file may not assign names that are no settings; the
environment may hold any names.
-/

/-- Where a setting comes from. -/
inductive Source where
  | environment
  | file
  deriving Repr, DecidableEq

/-- The name of a source in messages. -/
def Source.name : Source → String
  | .environment => "EnvSettingsSource"
  | .file => "DotEnvSettingsSource"

/-- Why settings are not loaded. -/
inductive LoadingFault where
  | unreadableOrigins (source : Source)
  | invalid (fault : Fault) (more : List Fault)
  deriving DecidableEq, Repr

/-- The setting that is written as JSON. -/
def originsName : String := "CORS_ORIGINS"

/-- Why a setting cannot be read from a source. -/
def unreadableMessage (source : Source) : String :=
  "error parsing value for field \"" ++ originsName ++ "\" from source \"" ++ source.name ++ "\""

/-- A fault of loading in words. -/
def LoadingFault.message : LoadingFault → String
  | .unreadableOrigins source => unreadableMessage source
  | .invalid fault more => Fault.report "Settings" (fault :: more)

/-- The names of all settings. -/
def names : List String :=
  Record.names standard.toRecord

/-- The value of a setting as a source gives it; null is the same as nothing. -/
def sourceValue?
    (source : Source)
    (name given : String) : Except LoadingFault (Option Value) :=
  if name == originsName then
    match Json.read given with
    | .error _ => .error (.unreadableOrigins source)
    | .ok .null => .ok none
    | .ok value => .ok (some value)
  else
    .ok (some (.text given))

/-- What a source sets, in the order of the settings. -/
def sourceRecord
    (source : Source)
    (lookUp : String → Option String) : Except LoadingFault Record := do
  let found ← names.mapM fun name =>
    match lookUp name with
    | none => .ok none
    | some given => do
        let value ← sourceValue? source name given
        return value.map fun content => (name, content)
  return found.filterMap id

/-- Whether an assigned name counts as a setting that is not one. -/
def isStray (assignment : Assignment) : Bool :=
  assignment.value.getD "" != "" && !names.contains assignment.name &&
    !Text.beginsWith originsName.toList assignment.name.toList

/-- The assignments of a file that are no settings. -/
def strayRecord (assignments : List Assignment) : Record :=
  (assignments.filter isStray).map fun assignment =>
    (assignment.name, .text (assignment.value.getD ""))

/-- Checks a setting that has a standard value. -/
def optional
    (name : String)
    (check : Value → Checked α)
    (absent : α)
    (record : Record) : Checked α :=
  (FieldName.plain name).optional check absent record

/-- Checks settings given under their variables' names. -/
def ofRecord (record : Record) : Checked Settings :=
  Checked.withFaults
    ((optional "APP_ENV" Scalar.text standard.environment record).map Settings.mk
      |>.and (optional "DEBUG" Scalar.flag standard.debug record)
      |>.and (optional "LOG_LEVEL" Scalar.text standard.logLevel record)
      |>.and (optional originsName (Scalar.items Scalar.text) standard.allowedOrigins record)
      |>.and (optional "MAX_SOURCE_CHARS" Scalar.integer standard.sourceLimit record)
      |>.and (optional "DEFAULT_INDICATOR_NAME" Scalar.text standard.indicatorName record)
      |>.and (optional "DEFAULT_TIMEFRAME" Scalar.text standard.timeframe record)
      |>.and (optional "DEFAULT_LOTS" Scalar.real standard.lots record)
      |>.and (optional "DEFAULT_SLIPPAGE" Scalar.integer standard.slippage record)
      |>.and (optional "DEFAULT_STOP_LOSS" Scalar.integer standard.stopLoss record)
      |>.and (optional "DEFAULT_TAKE_PROFIT" Scalar.integer standard.takeProfit record)
      |>.and (optional "DEFAULT_MAGIC_NUMBER" Scalar.integer standard.magicNumber record))
    (FieldName.strayFaults (names.map FieldName.plain) record)

/-- The value of a variable of the environment. -/
def environmentValue?
    (environment : List (String × String))
    (name : String) : Option String :=
  (environment.find? fun entry => entry.1 == name).map Prod.snd

/-- The value that a file of settings assigns to a name. -/
def fileValue?
    (assignments : List Assignment)
    (name : String) : Option String :=
  (assignments.find? fun assignment => assignment.name == name).bind Assignment.value

/-- Loads settings from an environment and the text of an assignment file. -/
def load
    (environment : List (String × String))
    (file : Option String) : Except LoadingFault Settings := do
  let lookUp := environmentValue? environment
  let assignments := Assignment.resolve lookUp ((file.map Assignment.ofText).getD [])
  let fromEnvironment ← sourceRecord .environment lookUp
  let fromFile ← sourceRecord .file (fileValue? assignments)
  let merged := fromEnvironment.foldl
    (fun record entry => Record.insert record entry.1 entry.2)
    (fromFile ++ strayRecord assignments)
  match ofRecord merged with
  | .accepted settings => .ok settings
  | .refused fault more => .error (.invalid fault more)

end ExpertAdvisor.Settings
