import ExpertAdvisor.Text.Blank
import ExpertAdvisor.Terminal.Message

namespace ExpertAdvisor.Terminal

/-!
# Wrapping

Text is broken into lines between words, so that each line fits a width in
terminal cells; the blanks after a word belong to it and may stick out.  A word
that fits no line is either folded over several lines or left whole.
-/

/-- Splits off one word at a time with the blanks after it, in at most as many steps as the fuel. -/
def wordsFrom : Nat → List Char → List (List Char)
  | 0, _ => []
  | fuel + 1, characters =>
      let (word, afterWord) := characters.span fun character => !Text.isBlank character
      let (blanks, rest) := afterWord.span Text.isBlank
      if word.isEmpty then [] else (word ++ blanks) :: wordsFrom fuel rest

/-- The words of a text with the blanks around them; a text of blanks has none. -/
def wordsWithBlanks (characters : List Char) : List (List Char) :=
  let (blanks, rest) := characters.span Text.isBlank
  match wordsFrom characters.length rest with
  | [] => []
  | first :: more => (blanks ++ first) :: more

/-- Characters without the blanks at their end. -/
def trimEnd (characters : List Char) : List Char :=
  (characters.reverse.dropWhile Text.isBlank).reverse

/-- Cuts a word into pieces that fit a width, with the open piece in reverse. -/
def chopFrom
    (width used : Nat)
    (piece : List Char) :
    List Char → List (List Char)
  | [] => [piece.reverse]
  | character :: rest =>
      let cells := Text.cellWidth character
      if width < used + cells then
        piece.reverse :: chopFrom width cells [character] rest
      else
        chopFrom width (used + cells) (character :: piece) rest

/-- The lines that are full, in reverse, and the line that is being filled. -/
structure Wrapping where
  full : List (List Char)
  line : List Char
  used : Nat

namespace Wrapping

/-- Nothing written yet. -/
def start : Wrapping := ⟨[], [], 0⟩

/-- Adds to the line that is being filled. -/
def continued
    (wrapping : Wrapping)
    (word : List Char) : Wrapping :=
  { wrapping with line := wrapping.line ++ word, used := wrapping.used + Text.cellWidths word }

/-- Starts another line, unless nothing is written yet. -/
def broken
    (wrapping : Wrapping)
    (word : List Char) : Wrapping :=
  if wrapping.full.isEmpty && wrapping.line.isEmpty then
    ⟨[], word, Text.cellWidths word⟩
  else
    ⟨wrapping.line :: wrapping.full, word, Text.cellWidths word⟩

/--
Writes a word onto the line if it fits, and else onto a new one; a word that
fits nowhere is folded.
-/
def write
    (width : Nat)
    (folds : Bool)
    (wrapping : Wrapping)
    (word : List Char) : Wrapping :=
  let bare := Text.cellWidths (trimEnd word)
  if wrapping.used + bare ≤ width then wrapping.continued word
  else if width < bare && folds then (chopFrom width 0 [] word).foldl broken wrapping
  else wrapping.broken word

/-- The lines that were written, in their order. -/
def lines (wrapping : Wrapping) : List (List Char) :=
  (wrapping.line :: wrapping.full).reverse

end Wrapping

/-- Removes blanks that stick out at the end of a line. -/
def dropOverhang
    (width : Nat)
    (line : List Char) : List Char :=
  let blanks := line.length - (trimEnd line).length
  line.take (line.length - min blanks (line.length - width))

/-- Breaks a text into lines of a width. -/
def wrap
    (width : Nat)
    (folds : Bool)
    (characters : List Char) : List (List Char) :=
  let words := wordsWithBlanks characters
  if words.isEmpty then [dropOverhang width characters]
  else
    ((words.foldl (Wrapping.write width folds) .start).lines).map (dropOverhang width)

/-- As many spaces as are counted. -/
def spaces (count : Nat) : List Char :=
  List.replicate count ' '

/-- The longest start of a line that fits a width. -/
def fitting
    (width : Nat) :
    List Char → List Char
  | [] => []
  | character :: rest =>
      let cells := Text.cellWidth character
      if width < cells then [] else character :: fitting (width - cells) rest

/-- A line filled up with spaces to a width. -/
def filled
    (width : Nat)
    (line : List Char) : List Char :=
  line ++ spaces (width - Text.cellWidths line)

/-- A line cut to a width, the last cell then showing that something is missing. -/
def cut
    (width : Nat)
    (line : List Char) : List Char :=
  if width < Text.cellWidths line then filled (width - 1) (fitting (width - 1) line) ++ ['…']
  else line

/-- A line in the middle of a width; the odd space goes to the right. -/
def centred
    (width : Nat)
    (line : List Char) : List Char :=
  let bare := trimEnd line
  filled width (spaces ((width - Text.cellWidths bare) / 2) ++ bare)

end ExpertAdvisor.Terminal
