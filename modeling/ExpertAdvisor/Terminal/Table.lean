import ExpertAdvisor.Terminal.Wrapping

namespace ExpertAdvisor.Terminal

/-!
# Tables

A table has a title, a heavy box around its header and a light one around its
rows.  A column is as wide as its widest cell and a space on either side; the
title is wrapped to the width of the table and centred above it.
-/

/-- A table: its title, the heads of its columns, and rows of as many cells. -/
structure Table where
  title : String
  heads : List String
  rows : List (List String)
  deriving Repr, DecidableEq

/-- The pieces of a horizontal border. -/
structure Border where
  left : Char
  line : Char
  joint : Char
  right : Char

/-- The border above the heads. -/
def topBorder : Border := ⟨'┏', '━', '┳', '┓'⟩

/-- The border between the heads and the rows. -/
def headBorder : Border := ⟨'┡', '━', '╇', '┩'⟩

/-- The border below the rows. -/
def bottomBorder : Border := ⟨'└', '─', '┴', '┘'⟩

/-- The vertical border between the heads of columns. -/
def headSeparator : Char := '┃'

/-- The vertical border between the cells of rows. -/
def rowSeparator : Char := '│'

namespace Border

/-- A border over columns of the given widths. -/
def text
    (border : Border)
    (widths : List Nat) : List Char :=
  let segments := widths.map fun width => List.replicate (width + 2) border.line
  border.left :: ([border.joint].intercalate segments ++ [border.right])

end Border

/-- Whether a character would break a line where the width of a cell is measured. -/
def breaksLine (character : Char) : Bool :=
  let codePoint := character.toNat
  (0x0A ≤ codePoint && codePoint ≤ 0x0D) || (0x1C ≤ codePoint && codePoint ≤ 0x1E) ||
    codePoint == 0x85 || codePoint == 0x2028 || codePoint == 0x2029

/-- The width of the widest line of a cell; a tab takes no cell. -/
def measuredFrom
    (widest used : Nat) :
    List Char → Nat
  | [] => max widest used
  | character :: rest =>
      if breaksLine character then measuredFrom (max widest used) 0 rest
      else measuredFrom widest (used + Text.cellWidth character) rest

/-- The width of a cell, that of its widest line. -/
def measured (cell : List Char) : Nat :=
  measuredFrom 0 0 cell

/-- The lines of a cell in a column of a width. -/
def cellLines
    (width : Nat)
    (cell : List Char) : List (List Char) :=
  (wrap width false (expandTabs cell)).map fun line => filled width (cut width line)

/-- A line of cells between vertical borders. -/
def cellsLine
    (separator : Char)
    (cells : List (List Char)) : List Char :=
  let padded := cells.map fun cell => ' ' :: cell ++ [' ']
  separator :: ([separator].intercalate padded ++ [separator])

/-- The lines of a row, whose cells may take several lines. -/
def rowLines
    (separator : Char)
    (widths : List Nat)
    (cells : List (List Char)) : List (List Char) :=
  let columns := (widths.zip cells).map fun column => (column.1, cellLines column.1 column.2)
  let height := (columns.map fun column => column.2.length).foldl max 1
  (List.range height).map fun index =>
    cellsLine separator (columns.map fun column =>
      (column.2[index]?).getD (spaces column.1))

namespace Table

/-- Cells as they appear. -/
def shownCells (cells : List String) : List (List Char) :=
  cells.map fun cell => withoutControls (shown cell).toList

/-- The widths of the columns: each fits its widest cell. -/
def widths (table : Table) : List Nat :=
  (table.rows.map shownCells).foldl
    (fun widths cells => (widths.zip cells).map fun column => max column.1 (measured column.2))
    (table.heads.map fun head => measured head.toList)

/-- The width of a table with its borders and the blanks around its cells. -/
def width (table : Table) : Nat :=
  table.widths.foldl (fun total width => total + width + 3) 1

/-- The lines of the title, in the middle above the table. -/
def titleLines (table : Table) : List (List Char) :=
  (wrap table.width true table.title.toList).map (centred table.width)

/-- The lines of a table, from its title to its bottom border. -/
def lines (table : Table) : List (List Char) :=
  let widths := table.widths
  table.titleLines ++
    [topBorder.text widths] ++
    rowLines headSeparator widths (table.heads.map String.toList) ++
    [headBorder.text widths] ++
    table.rows.flatMap (fun cells => rowLines rowSeparator widths (shownCells cells)) ++
    [bottomBorder.text widths]

/-- A table as it is printed. -/
def text (table : Table) : String :=
  String.join (table.lines.map fun line => String.ofList line ++ "\n")

end Table

end ExpertAdvisor.Terminal
