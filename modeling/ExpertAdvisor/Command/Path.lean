namespace ExpertAdvisor.Command

/-!
# Paths

A path is its components below a root.  Empty components and those that name the
current directory say nothing and are dropped; parent directories are kept,
because what they mean depends on the files that exist.
-/

/-- A path: the slashes that it begins with, none for a relative one, and its components. -/
structure Path where
  root : String
  components : List String
  deriving Repr, DecidableEq

namespace Path

/-- The slashes that count at the start of a path: exactly two differ from one. -/
def rootOf : List Char → String
  | '/' :: '/' :: '/' :: _ => "/"
  | '/' :: '/' :: _ => "//"
  | '/' :: _ => "/"
  | _ => ""

/-- The components that text between slashes gives. -/
def componentsOf (characters : List Char) : List String :=
  ((characters.splitOn '/').map String.ofList).filter fun component =>
    component != "" && component != "."

/-- The path that a text names. -/
def ofText (text : String) : Path :=
  ⟨rootOf text.toList, componentsOf text.toList⟩

/-- The text of a path; the current directory is a point. -/
def text (path : Path) : String :=
  let written := path.root ++ "/".intercalate path.components
  if written == "" then "." else written

/-- A file's name without the ending that its last point starts, if that is inside the name. -/
def withoutEnding (name : String) : String :=
  match name.toList.reverse.span (· != '.') with
  | (ending, '.' :: stem) =>
      if ending.isEmpty || stem.isEmpty then name else String.ofList stem.reverse
  | _ => name

/-- The last component without its ending. -/
def stem (path : Path) : String :=
  withoutEnding (path.components.getLast?.getD "")

end Path

end ExpertAdvisor.Command
