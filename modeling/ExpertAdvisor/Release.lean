import ExpertAdvisor.Json.Reader
import ExpertAdvisor.Text.Lines
import ExpertAdvisor.Text.Quoted
import ExpertAdvisor.Value.Literal

namespace ExpertAdvisor

/-!
# Release information

The version file describes the running release.  It is read once: what was read
is kept, unless that was null, and later changes of the file do not show.
-/

/-- The version file as it stands. -/
inductive VersionFile where
  | shipped
  | written (text : String)
  | absent (path : String)
  deriving Repr, DecidableEq

/-- Why there is no release information. -/
inductive VersionFault where
  | notFound (path : String)
  | unreadable (fault : Json.Fault)
  deriving Repr, DecidableEq

namespace VersionFault

/-- The class of a fault with the version file. -/
def className : VersionFault → String
  | .notFound _ => "FileNotFoundError"
  | .unreadable fault => fault.className

/-- A fault with the version file in words. -/
def message : VersionFault → String
  | .notFound path => "[Errno 2] No such file or directory: " ++ Text.quoted path
  | .unreadable fault => fault.message

end VersionFault

namespace VersionFile

/-- The name of the version file. -/
def name : String := "version.json"

/-- What the version file says that comes with the program. -/
def shippedContent : Value :=
  .record [
    ("version", .text "1.0.0"),
    ("codename", .text "Forge"),
    ("updated_at", .text "2026-10-19"),
    ("changelog", .list [
      .text "Detect input/extern parameters in MQL4 indicator source",
      .text "Generate Expert Advisors with crossover, threshold and custom logic",
      .text "HTTP API and ea-builder command-line tool"])]

/-- Reads a version file. -/
def read : VersionFile → Except VersionFault Value
  | .shipped => .ok shippedContent
  | .absent path => .error (.notFound path)
  | .written text =>
      (Json.read (String.ofList (Text.unifyLineEnds text.toList))).mapError .unreadable

end VersionFile

/-- What was read of the version file so far; null stands for nothing. -/
structure VersionCache where
  content : Value
  deriving DecidableEq, Repr

namespace VersionCache

/-- Nothing was read. -/
def empty : VersionCache := ⟨.null⟩

/-- The release information and what is kept of it; only an empty cache looks at the file. -/
def get
    (cache : VersionCache)
    (file : VersionFile) : Except VersionFault Value × VersionCache :=
  if cache.content.isNull then
    match file.read with
    | .ok content => (.ok content, ⟨content⟩)
    | .error fault => (.error fault, cache)
  else
    (.ok cache.content, cache)

end VersionCache

/-- How the service presents its release. -/
structure Release where
  version : Value
  description : String
  deriving DecidableEq, Repr

namespace Release

/-- What the program says of itself. -/
def summary : String :=
  "MQL4 indicator to Expert Advisor converter"

/-- The release where no release information is to be had. -/
def unknown : Release :=
  ⟨.text "unknown", summary⟩

/-- The release that a version file describes, or the words that say why it describes none. -/
def ofFile (file : VersionFile) : Except String Release :=
  match file.read with
  | .error fault => .error fault.message
  | .ok (.record fields) =>
      let codename := (Record.get? fields "codename").getD (.text "Forge")
      .ok ⟨(Record.get? fields "version").getD (.text "unknown"),
        summary ++ " - " ++ codename.display⟩
  | .ok other => .error ("'" ++ other.kindName ++ "' object has no attribute 'get'")

end Release

end ExpertAdvisor
