import ExpertAdvisor.Command.Run
import ExpertAdvisor.Settings.Loading

namespace ExpertAdvisor.Main

/-!
# The program

The program reads the files that its invocation names, runs, and delivers what
the run hands over.  Everything else is decided by the run.
-/

open Command

/-- The fault that keeps a file from being opened, if it is one that is reported. -/
def fileFault? : IO.Error → Option FileFault
  | .noFileOrDirectory _ _ _ => some .missing
  | .inappropriateType _ code _ =>
      some (if code.toNat == FileFault.isDirectory.number then .isDirectory else .notDirectory)
  | _ => none

/-- Runs an action on a file and keeps the faults that are reported. -/
def opened (action : IO α) : IO (Except FileFault α) := do
  try
    return .ok (← action)
  catch problem =>
    match fileFault? problem with
    | some fault => return .error fault
    | none => throw problem

/-- Reads the file at a path, with what keeps it from being read. -/
def readFile (path : Path) : IO (Path × Except FileFault (List UInt8)) := do
  let content ← opened (IO.FS.readBinFile path.text)
  return (path, content.map ByteArray.toList)

partial def readStream
    (stream : IO.FS.Stream)
    (read : List UInt8) : IO (List UInt8) := do
  let block ← stream.read 65536
  if block.isEmpty then return read else readStream stream (read ++ block.toList)

/-- What surrounds the run of an invocation. -/
def surroundings (invocation : Invocation) : IO Surroundings := do
  let files ← invocation.readPaths.mapM readFile
  let input ←
    if invocation.readsStandardInput then readStream (← IO.getStdin) [] else pure []
  return ⟨fun path => (List.lookup path files).getD (.error .missing), input⟩

/-- The settings of the environment and of the `.env` file. -/
def settings : IO (Except Settings.LoadingFault Settings) := do
  let environment ← Settings.names.filterMapM fun name => do
    return (← IO.getEnv name).map fun value => (name, value)
  let dotenv ← opened (IO.FS.readFile ".env")
  return Settings.load environment dotenv.toOption

/-- Delivers what a run hands over. -/
def deliver : Progress → IO Outcome
  | .writing path code parameterCount messages entries => do
      let written ← opened (IO.FS.writeFile path.text code)
      return (Progress.writing path code parameterCount messages entries).conclude written
  | .finished outcome => return outcome

/-- Prints an outcome, the journal with the messages. -/
def report (outcome : Outcome) : IO UInt32 := do
  let errors ← IO.getStderr
  for entry in outcome.entries do
    errors.putStrLn (Json.print .compact entry.toValue)
  errors.putStr outcome.messageText
  if let some fault := outcome.unhandled? then
    errors.putStrLn (fault.className ++ ": " ++ fault.message)
  IO.print outcome.output
  return UInt32.ofNat outcome.exit

/-- Runs the program with its words; settings that cannot be loaded end it. -/
def run (words : List String) : IO UInt32 := do
  match Invocation.ofWords? words, ← settings with
  | none, _ => report misused
  | some _, .error fault => do
      (← IO.getStderr).putStrLn ("Error: " ++ fault.message)
      return 1
  | some invocation, .ok settings => do
      report (← deliver (start settings (← surroundings invocation) invocation))

end ExpertAdvisor.Main

/-- Runs the program on the words of its command line. -/
def main (words : List String) : IO UInt32 :=
  ExpertAdvisor.Main.run words
