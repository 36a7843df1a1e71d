import ExpertAdvisor.Yaml.Place

namespace ExpertAdvisor.Yaml

/-!
# Block scalars

A block scalar is a text of indented lines below its header.  The literal style
keeps every line break; the folded style joins lines that begin with no blank by
a space.  The header may fix the indentation, and it says what becomes of the
line breaks at the end.
-/

/-- What becomes of the line breaks at the end of a block scalar. -/
inductive Chomping where
  | clip
  | strip
  | keep
  deriving Repr, DecidableEq

/-- The header of a block scalar. -/
structure BlockHeader where
  folded : Bool
  chomping : Chomping
  indentation : Option Nat
  deriving Repr, DecidableEq

/-- Reads how a block scalar is chomped, where that is said. -/
def chomping? : List Place → Option (Chomping × List Place)
  | place :: rest =>
      if place.character == '+' then some (.keep, rest)
      else if place.character == '-' then some (.strip, rest)
      else none
  | [] => none

/-- Reads the indentation of a block scalar, where that is said. -/
def indentation? : List Place → Option (Nat × List Place)
  | place :: rest =>
      if place.character.isDigit then
        some (place.character.toNat - '0'.toNat, rest)
      else
        none
  | [] => none

/-- Reads the two indicators of a header in either order. -/
def headerIndicators (here : List Place) : Chomping × Option Nat × List Place :=
  match chomping? here with
  | some (chomping, rest) =>
      match indentation? rest with
      | some (indentation, following) => (chomping, some indentation, following)
      | none => (chomping, none, rest)
  | none =>
      match indentation? here with
      | some (indentation, rest) =>
          match chomping? rest with
          | some (chomping, following) => (chomping, some indentation, following)
          | none => (.clip, some indentation, rest)
      | none => (.clip, none, here)

/-- What follows the rest of a header line, which may hold spaces and a comment. -/
def afterHeaderLine? (here : List Place) : Option (List Place) :=
  match here.dropWhile Place.isSpace with
  | [] => some []
  | place :: rest =>
      if place.endsLine then some rest
      else if place.character == '#' then
        some ((rest.dropWhile fun place => !place.endsLine).drop 1)
      else none

/-- Reads a header whose first character stands before here. -/
def blockHeader?
    (folded : Bool)
    (here : List Place) : Option (BlockHeader × List Place) := do
  let (chomping, indentation, rest) := headerIndicators here
  let following ← if atSpaceOrLineEnd rest then afterHeaderLine? rest else none
  if indentation == some 0 then none
  else some (⟨folded, chomping, indentation⟩, following)
where
  atSpaceOrLineEnd : List Place → Bool
    | [] => true
    | place :: _ => place.isSpace || place.endsLine

/-- Reads the empty lines before the first line of a text, and finds how far their spaces reach. -/
def leadingLines
    (found : List Char)
    (reach : Nat) :
    List Place → List Char × Nat × List Place
  | [] => (found.reverse, reach, [])
  | place :: rest =>
      if place.endsLine then leadingLines (keptBreak place.character :: found) reach rest
      else if place.isSpace then leadingLines found (max reach (place.column + 1)) rest
      else (found.reverse, reach, place :: rest)

/-- Reads line breaks, and the spaces before an indentation. -/
def emptyLines
    (indentation : Nat)
    (found : List Char) :
    List Place → List Char × List Place
  | [] => (found.reverse, [])
  | place :: rest =>
      if place.endsLine then emptyLines indentation (keptBreak place.character :: found) rest
      else if place.isSpace && place.column < indentation then emptyLines indentation found rest
      else (found.reverse, place :: rest)

/-- Whether a line of the text begins here. -/
def atLine
    (indentation : Nat) :
    List Place → Bool
  | [] => false
  | place :: _ => place.column == indentation

/-- Whether a space or a tab stands here. -/
def atBlank : List Place → Bool
  | [] => false
  | place :: _ => Text.isSpaceOrTab place.character

/-- The lines of a block scalar read so far in reverse, and the breaks at their end. -/
structure BlockLines where
  read : List Char
  lineBreak : List Char
  emptyLines : List Char
  rest : List Place

/-- What the break after a line reads as when another line follows. -/
def joint
    (header : BlockHeader)
    (line following : List Place)
    (lines : BlockLines) : List Char :=
  if header.folded && lines.lineBreak == ['\n'] && !atBlank line && !atBlank following then
    if lines.emptyLines.isEmpty then [' '] else []
  else
    lines.lineBreak

/-- Reads the lines of a block scalar, at most as many as the fuel. -/
def blockLinesFrom
    (header : BlockHeader)
    (indentation : Nat) :
    Nat → BlockLines → BlockLines
  | 0, lines => lines
  | fuel + 1, lines =>
      if atLine indentation lines.rest then
        let (line, afterLine) := lines.rest.span fun place => !place.endsLine
        let read := (charactersAt line).reverse ++ lines.emptyLines.reverse ++ lines.read
        let lineBreak := (charactersAt (afterLine.take 1)).map keptBreak
        let (breaks, following) := emptyLines indentation [] (afterLine.drop 1)
        let next : BlockLines := ⟨read, lineBreak, breaks, following⟩
        if atLine indentation following then
          blockLinesFrom header indentation fuel
            { next with read := (joint header line following next).reverse ++ read }
        else
          next
      else
        { lines with lineBreak := [] }

/-- The text of a block scalar, its end chopped as its header asks for. -/
def chomped
    (chomping : Chomping)
    (lines : BlockLines) : String :=
  let ending :=
    match chomping with
    | .strip => []
    | .clip => lines.lineBreak
    | .keep => lines.lineBreak ++ lines.emptyLines
  String.ofList (lines.read.reverse ++ ending)

/-- Reads a block scalar, inside a margin, whose first character stands before here. -/
def blockScalar?
    (folded : Bool)
    (margin : Nat)
    (here : List Place) : Option (String × List Place) := do
  let (header, start) ← blockHeader? folded here
  let least := max margin 1
  let (indentation, breaks, rest) :=
    match header.indentation with
    | some increment =>
        let indentation := least + increment - 1
        let (breaks, rest) := emptyLines indentation [] start
        (indentation, breaks, rest)
    | none =>
        let (breaks, reach, rest) := leadingLines [] 0 start
        (max least reach, breaks, rest)
  let lines := blockLinesFrom header indentation (here.length + 1) ⟨[], [], breaks, rest⟩
  return (chomped header.chomping lines, lines.rest)

end ExpertAdvisor.Yaml
