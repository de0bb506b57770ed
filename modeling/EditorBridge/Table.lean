import EditorBridge.Text.DisplayWidth
import EditorBridge.Text.Lines

/-!
Grids of text for a fixed-width terminal. Every column is as wide as the widest line of its header
and cells, and every line of a cell is centred on its own:

    +-------+------+
    | Name  | Type |
    +-------+------+
    | a-b-c |  ok  |
    +-------+------+

A row has as many lines as its tallest cell, and at least one. Cells that a row lacks are blank, and
cells past the last header are not shown. Grids are laid out for any way to count the columns of a
line.
-/

namespace EditorBridge.Table

open Text

abbrev Cell := List (List Char)

def Cell.ofString (s : String) : Cell := lines s.toList

/-- The `column`-th cell of a row, blank if the row has none. -/
def cellAt (row : List Cell) (column : Nat) : Cell := row.getD column []

/-- The row cut or filled up with blank cells to a number of columns. -/
def fit (columns : Nat) (row : List Cell) : List Cell := (List.range columns).map (cellAt row)

/-- The line above the header, below it and below the last row. -/
def border (widths : List Nat) : List Char :=
  '+' :: joinWith ['+'] (widths.map fun w => List.replicate (w + 2) '-') ++ ['+']

def height (row : List Cell) : Nat := max 1 ((row.map List.length).foldr max 0)

section

variable (count : List Char → Nat)

def Cell.width (cell : Cell) : Nat := (cell.map count).foldr max 0

/-- The width of each column: that of its widest line. -/
def columnWidths (header : List Cell) (rows : List (List Cell)) : List Nat :=
  (List.range header.length).map fun column =>
    ((header :: rows).map fun row => (cellAt row column).width count).foldr max 0

/-- A line with blanks on both sides, `width` columns in all; of an odd number of blanks the greater
half goes to the right. -/
def centre (line : List Char) (width : Nat) : List Char :=
  let blanks := width - count line
  List.replicate (blanks / 2) ' ' ++ line ++ List.replicate (blanks - blanks / 2) ' '

def rowLine (widths : List Nat) (row : List Cell) (i : Nat) : List Char :=
  ['|', ' '] ++
    joinWith [' ', '|', ' ']
      (List.zipWith (fun cell w => centre count (cell.getD i []) w) row widths) ++
    [' ', '|']

def rowLines (widths : List Nat) (row : List Cell) : List (List Char) :=
  (List.range (height row)).map (rowLine count widths row)

/-- The lines of a grid: a border, the header, a border, the rows and a border. -/
def gridLines (header : List Cell) (rows : List (List Cell)) : List (List Char) :=
  let widths := columnWidths count header rows
  [border widths] ++ rowLines count widths header ++ [border widths] ++
    rows.flatMap (fun row => rowLines count widths (fit header.length row)) ++ [border widths]

/-- The grid of `rows` under `headers`, without a line feed at its end. -/
def layOut (headers : List String) (rows : List (List String)) : String :=
  String.ofList (joinWith ['\n'] (gridLines count (headers.map Cell.ofString)
    (rows.map fun row => row.map Cell.ofString)))

end

def render (headers : List String) (rows : List (List String)) : String :=
  layOut Text.width headers rows

end EditorBridge.Table
