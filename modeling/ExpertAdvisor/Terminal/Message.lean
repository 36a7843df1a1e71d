import ExpertAdvisor.Text.CellWidth

namespace ExpertAdvisor.Terminal

/-!
# Messages on a terminal

Messages are written in a markup in which bracketed words are styles and a
backslash keeps a bracket from starting one.  A value in a message is escaped,
so bracketed words in it appear as they are; a backslash before a bracket that
starts no style is lost, and a single backslash at the end appears twice.
Control characters that would move the cursor are dropped.
-/

/-- Whether a character begins a style, when it stands behind a bracket. -/
def beginsStyle (character : Char) : Bool :=
  ('a' ≤ character && character ≤ 'z') || character == '#' || character == '/' || character == '@'

/-- Whether a bracket closes before another one opens. -/
def closesBracket : List Char → Bool
  | [] => false
  | ']' :: _ => true
  | '[' :: _ => false
  | _ :: rest => closesBracket rest

/-- Whether the characters after an opening bracket make it a style. -/
def isStyle : List Char → Bool
  | [] => false
  | first :: rest => beginsStyle first && closesBracket rest

/-- As many backslashes as are counted. -/
def backslashes (count : Nat) : List Char :=
  List.replicate count '\\'

/-- How escaped characters appear, after a run of backslashes. -/
def shownAfter
    (run : Nat) :
    List Char → List Char
  | [] => backslashes (if run == 1 then 2 else run)
  | character :: rest =>
      if character == '\\' then
        shownAfter (run + 1) rest
      else if character == '[' then
        backslashes (if isStyle rest then run else run - 1) ++ '[' :: shownAfter 0 rest
      else
        backslashes run ++ character :: shownAfter 0 rest

/-- How a value appears in a message. -/
def shown (content : String) : String :=
  String.ofList (shownAfter 0 content.toList)

/-- Whether a character would ring or move the cursor. -/
def isCursorControl (character : Char) : Bool :=
  [0x07, 0x08, 0x0B, 0x0C, 0x0D].contains character.toNat

/-- Characters without those that move the cursor. -/
def withoutControls (characters : List Char) : List Char :=
  characters.filter fun character => !isCursorControl character

/-- The distance between tab stops. -/
def tabWidth : Nat := 8

/-- Fills up to the next tab stop at every tab, from a column on. -/
def expandTabsFrom
    (column : Nat) :
    List Char → List Char
  | [] => []
  | character :: rest =>
      if character == '\t' then
        let width := tabWidth - column % tabWidth
        List.replicate width ' ' ++ expandTabsFrom (column + width) rest
      else if character == '\n' then
        character :: expandTabsFrom 0 rest
      else
        character :: expandTabsFrom (column + Text.cellWidth character) rest

/-- Fills up to the next tab stop at every tab. -/
def expandTabs (characters : List Char) : List Char :=
  expandTabsFrom 0 characters

/-- A message as the terminal is sent it, with the line break at its end. -/
def printed (message : String) : String :=
  String.ofList (expandTabs (withoutControls message.toList)) ++ "\n"

end ExpertAdvisor.Terminal
