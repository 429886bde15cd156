import FormulaSheet.Error
import FormulaSheet.Table.View

/-!
Changes of a grid. Body rows are counted from zero below the header. Each change either fails
with a cause or gives the new grid; a deletion that is refused because something would be lost
gives `none`. A new row takes its identifier from the caller.
-/

namespace FormulaSheet.Grid

def checkBodyIndex (g : Grid) (i : Nat) : Except Error Unit :=
  if i < g.bodySize then .ok () else .error (.outOfBounds .row i g.bodySize)

def checkColumn (g : Grid) (c : Nat) : Except Error Unit :=
  if c < g.width then .ok () else .error (.outOfBounds .column c g.width)

/-- Puts a cell into a row that is first filled up to `width`. -/
def writeAt (width c : Nat) (value : String) (row : List String) : List String :=
  (padRow width row).set c value

/-- Changes the body rows and leaves header and footer. -/
def mapBody (f : List String → List String) (g : Grid) : Grid :=
  match g with
  | [] => []
  | header :: rows => header :: (rows.dropLast.map f ++ rows.drop (rows.length - 1))

def insertRowAbove (id : String) (i : Nat) (g : Grid) : Except Error Grid := do
  g.checkBodyIndex i
  return g.insertIdx (i + 1) (g.emptyRow id)

def insertRowBelow (id : String) (i : Nat) (g : Grid) : Except Error Grid := do
  g.checkBodyIndex i
  return g.insertIdx (i + 2) (g.emptyRow id)

/-- Adds a row at the end of the body; a grid without footer gets an empty one too. -/
def appendRow (id : String) (g : Grid) : Grid :=
  if g.length ≤ 1 then g ++ [g.emptyRow id, List.replicate g.width ""]
  else g.insertIdx (g.length - 1) (g.emptyRow id)

/-- Deletes a body row whose cells are all empty, unless it is the last one. -/
def deleteEmptyRow (i : Nat) (g : Grid) : Except Error (Option Grid) := do
  g.checkBodyIndex i
  if g.length ≤ 3 then return none
  if (g.getD (i + 1) []).any fun cell => !cell.isEmpty then return none
  return some (g.eraseIdx (i + 1))

/-- Inserts an empty cell in every row, at its end when it is shorter. -/
def insertColumn (c : Nat) (g : Grid) : Grid :=
  let rows := if g.isEmpty then [[], []] else g
  rows.map fun row => row.insertIdx (min c row.length) ""

/-- Removes a cell from every row that has it. -/
def deleteColumn (c : Nat) (g : Grid) : Except Error Grid := do
  g.checkColumn c
  return g.map fun row => row.eraseIdx c

/-- Deletes a column in which no row has a value. -/
def deleteEmptyColumn (c : Nat) (g : Grid) : Except Error (Option Grid) :=
  if g.any fun row => !(row.getD c "").isEmpty then .ok none
  else (g.deleteColumn c).map some

/-- Writes a value into a column of every body row. -/
def fillColumn (c : Nat) (value : String) (g : Grid) : Except Error Grid := do
  g.checkColumn c
  return g.mapBody (writeAt g.width c value)

/-- Names a column; a column formula fills the column's body in place of that. -/
def renameColumn (c : Nat) (name : String) (g : Grid) : Except Error Grid :=
  if isColumnFormula name then g.fillColumn c name
  else .ok (writeAt (c + 1) c name g.columns :: g.drop 1)

/-- Writes a body cell; a column formula fills the whole column. -/
def setCell (i c : Nat) (value : String) (g : Grid) : Except Error Grid := do
  g.checkBodyIndex i
  if isColumnFormula value then g.fillColumn c value
  else return g.modify (i + 1) (writeAt (max g.width (c + 1)) c value)

/-- Writes a footer cell, whatever the value. Header and footer are added when missing. -/
def setFooterCell (c : Nat) (value : String) (g : Grid) : Grid :=
  let whole :=
    match g with
    | [] => [[], []]
    | [header] => [header, List.replicate header.length ""]
    | rows => rows
  whole.modify (whole.length - 1) (writeAt (max g.width (c + 1)) c value)

end FormulaSheet.Grid
