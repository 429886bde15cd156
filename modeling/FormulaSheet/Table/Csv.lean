/-!
Tables as text. Rows stand on lines and cells between commas; a cell that holds a quote, a comma
or a line break is written between quotes, with its own quotes doubled. Reading accepts any text:
a quote switches quoting on and off wherever it stands, and nothing is trimmed.
-/

namespace FormulaSheet

/-- The cells of a table, row by row. -/
abbrev Grid := List (List String)

namespace Csv

/-- What has been read: finished rows, finished cells of the open row and characters of the open
cell, each with the newest first. -/
structure Progress where
  rows : List (List String) := []
  cells : List String := []
  chars : List Char := []

namespace Progress

def push (p : Progress) (c : Char) : Progress := { p with chars := c :: p.chars }

/-- Ends the open cell. -/
def endCell (p : Progress) : Progress :=
  { p with cells := String.ofList p.chars.reverse :: p.cells, chars := [] }

/-- Ends the open cell and its row. -/
def endRow (p : Progress) : Progress :=
  { rows := p.endCell.cells.reverse :: p.rows, cells := [], chars := [] }

/-- All rows, the open one included. -/
def grid (p : Progress) : Grid := p.endRow.rows.reverse

end Progress

/-- Reads on, inside quotes or outside. -/
def readFrom : Bool → Progress → List Char → Grid
  | _, p, [] => p.grid
  | true, p, '"' :: '"' :: cs => readFrom true (p.push '"') cs
  | true, p, '"' :: cs => readFrom false p cs
  | true, p, c :: cs => readFrom true (p.push c) cs
  | false, p, '"' :: cs => readFrom true p cs
  | false, p, ',' :: cs => readFrom false p.endCell cs
  | false, p, '\n' :: cs => readFrom false p.endRow cs
  | false, p, c :: cs => readFrom false (p.push c) cs

/-- The table of a text; it has at least one row, and every row at least one cell. -/
def read (text : String) : Grid := readFrom false {} text.toList

def needsQuotes (cell : String) : Bool :=
  cell.toList.any fun c => c == '"' || c == ',' || c == '\n'

/-- Doubles the quotes of a cell. -/
def doubled (cs : List Char) : List Char :=
  cs.flatMap fun c => if c = '"' then ['"', '"'] else [c]

/-- A cell as it is written. -/
def writeCell (cell : String) : String :=
  if needsQuotes cell then String.ofList ('"' :: doubled cell.toList ++ ['"']) else cell

def writeRow (row : List String) : String := String.intercalate "," (row.map writeCell)

/-- The text of a table. -/
def write (grid : Grid) : String := String.intercalate "\n" (grid.map writeRow)

end Csv

end FormulaSheet
