import ExpertAdvisor.Command.Path
import ExpertAdvisor.Number.Digits
import ExpertAdvisor.Text.Quoted

namespace ExpertAdvisor.Command

/-!
# Workspaces

A workspace is the directory that the program runs in, with the files below it.
Paths are followed component by component, so a path may leave a directory again
through its parent; outside the workspace there is nothing to be found.
-/

/-- Why a file cannot be opened. -/
inductive FileFault where
  | missing
  | notDirectory
  | isDirectory
  deriving Repr, DecidableEq

namespace FileFault

/-- The number under which operating systems know a fault. -/
def number : FileFault → Nat
  | .missing => 2
  | .notDirectory => 20
  | .isDirectory => 21

/-- What is wrong with a file, in words. -/
def description : FileFault → String
  | .missing => "No such file or directory"
  | .notDirectory => "Not a directory"
  | .isDirectory => "Is a directory"

/-- The message of a fault with a file, with its number and path. -/
def message
    (path : Path)
    (fault : FileFault) : String :=
  "[Errno " ++ Number.naturalText fault.number ++ "] " ++ fault.description ++ ": " ++
    Text.quoted path.text

end FileFault

/-- Where a file is below the workspace: its directories, then its name. -/
abbrev Location := List String

/-- The files of a workspace, and directories that need not hold any. -/
structure Workspace where
  files : List (Location × List UInt8)
  directories : List Location
  deriving Repr, DecidableEq

/-- What a path leads to: a directory, a file, or a free name in a directory. -/
inductive Found where
  | directory
  | file (location : Location) (content : List UInt8)
  | vacant (location : Location)
  deriving Repr, DecidableEq

namespace Workspace

/-- The content of the file at a location. -/
def content?
    (workspace : Workspace)
    (location : Location) : Option (List UInt8) :=
  (workspace.files.find? fun known => known.1 == location).map Prod.snd

/-- Whether there is a directory at a location; directories above others need no entry. -/
def hasDirectory
    (workspace : Workspace)
    (location : Location) : Bool :=
  location.isEmpty ||
    workspace.directories.any (fun known => location.isPrefixOf known) ||
    workspace.files.any (fun known => location.isPrefixOf known.1 && location != known.1)

/-- Follows components from a directory, which is none outside the workspace. -/
def follow
    (workspace : Workspace) :
    Option Location → List String → Except FileFault Found
  | _, [] => .ok .directory
  | directory, ".." :: rest =>
      follow workspace
        (directory.bind fun location => if location.isEmpty then none else some location.dropLast)
        rest
  | none, _ :: _ => .error .missing
  | some directory, name :: rest =>
      let location := directory ++ [name]
      match workspace.content? location with
      | some content =>
          if rest.isEmpty then .ok (.file location content) else .error .notDirectory
      | none =>
          if workspace.hasDirectory location then follow workspace (some location) rest
          else if rest.isEmpty then .ok (.vacant location)
          else .error .missing

/-- What a path leads to. -/
def find
    (workspace : Workspace)
    (path : Path) : Except FileFault Found :=
  follow workspace (if path.root == "" then some [] else none) path.components

/-- The bytes of the file at a path. -/
def read
    (workspace : Workspace)
    (path : Path) : Except FileFault (List UInt8) :=
  match workspace.find path with
  | .ok (.file _ content) => .ok content
  | .ok .directory => .error .isDirectory
  | .ok (.vacant _) => .error .missing
  | .error fault => .error fault

/-- Puts a file at a location, in place of an older one. -/
def put
    (workspace : Workspace)
    (location : Location)
    (content : List UInt8) : Workspace :=
  { workspace with
    files := (location, content) :: workspace.files.filter fun known => known.1 != location }

/-- Writes a file, which is created where its directory exists. -/
def write
    (workspace : Workspace)
    (path : Path)
    (content : List UInt8) : Except FileFault Workspace :=
  match workspace.find path with
  | .ok (.file location _) | .ok (.vacant location) => .ok (workspace.put location content)
  | .ok .directory => .error .isDirectory
  | .error fault => .error fault

/-- The files whose content differs from what it was. -/
def changedSince
    (workspace before : Workspace) : List (Location × List UInt8) :=
  workspace.files.filter fun known => before.content? known.1 != some known.2

/-- A written location holds what was written. -/
theorem content?_put_self
    (workspace : Workspace)
    (location : Location)
    (content : List UInt8) :
    (workspace.put location content).content? location = some content := by
  simp [put, content?]

/-- Other locations keep their content. -/
theorem content?_put_of_ne
    (workspace : Workspace)
    {written location : Location}
    (content : List UInt8)
    (different : location ≠ written) :
    (workspace.put written content).content? location = workspace.content? location := by
  have skipped : (written == location) = false := by simpa using different.symm
  simp only [put, content?, List.find?_cons, skipped, List.find?_filter]
  congr 2
  funext known
  by_cases here : known.1 = location
  · simp [here, different]
  · simp [here]

end Workspace

end ExpertAdvisor.Command
