import FormulaSheet.Table.Csv
import FormulaSheet.Table.Fields

/-!
The frame of a table. The first row of a grid is the header, the last the footer, and the rows
between them are the body. A `View` shows every row with the width of the header.
-/

namespace FormulaSheet

/-- Fills a row with empty cells up to a width. -/
def padRow (width : Nat) (row : List String) : List String :=
  row ++ List.replicate (width - row.length) ""

/-- Values with this start belong to a whole column. -/
def columnFormulaMark : String := "% "

/-- Whether a value is a formula for every row of its column. -/
def isColumnFormula (value : String) : Bool := columnFormulaMark.toList.isPrefixOf value.toList

namespace Grid

/-- The number of columns, which is that of the header. -/
def width (g : Grid) : Nat := (g.headD []).length

def columns (g : Grid) : List String := g.headD []

/-- The rows between header and footer, as they are. -/
def bodyRows (g : Grid) : List (List String) := (g.drop 1).dropLast

/-- The number of body rows. -/
def bodySize (g : Grid) : Nat := g.length - 2

/-- The body rows with the width of the header. -/
def body (g : Grid) : List (List String) := g.bodyRows.map (padRow g.width)

/-- The last row with the width of the header; a grid of one row has no footer. -/
def footer (g : Grid) : List String :=
  if g.length ≤ 1 then [] else padRow g.width (g.getLastD [])

/-- A new row: the first cell identifies it, column formulas are those of the row below the
header, and all else is empty. -/
def emptyRow (id : String) (g : Grid) : List String :=
  let template := padRow g.width ((g.drop 1).headD [])
  template.zipIdx.map fun (cell, i) =>
    if i = 0 then id else if isColumnFormula cell then cell else ""

/-- A new table: a header, one row as an example and an empty footer. -/
def sample (id : String) : Grid :=
  [["id", "Col1", "Col2"], [id, "A", "B"], ["", "", ""]]

end Grid

/-- A table as it is shown, every row as wide as the header. -/
structure View where
  columns : List String := []
  body : List (List String) := []
  footer : List String := []
  deriving DecidableEq, Repr

namespace View

def ofGrid (g : Grid) : View := ⟨g.columns, g.body, g.footer⟩

/-- The fields of one body row. -/
def fields? (v : View) (row : Nat) : Option Fields := v.body[row]?.map (Fields.ofRow v.columns)

/-- The fields of all body rows. -/
def allFields (v : View) : List Fields := v.body.map (Fields.ofRow v.columns)

end View

end FormulaSheet
