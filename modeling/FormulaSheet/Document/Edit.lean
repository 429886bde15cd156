import FormulaSheet.Document.Basic
import FormulaSheet.Table.Edit

/-!
Edits of a document. An edit that fails has no result, so that the document stays as it was; one
that does not change the text leaves no trace.
-/

namespace FormulaSheet.Document

/-- The document after its text has changed. -/
def textChanged (d : Document) : Document :=
  { d with modified := true }.schedule { csv := some d.text }

/-- Replaces the whole text. -/
def replaceText (text : String) (d : Document) : Document :=
  match d.history.set text with
  | (true, history) => { d with history := history }.textChanged
  | (false, _) => d

/-- Changes the grid of the document. -/
def editGrid (f : Grid → Except Error Grid) (d : Document) : Except Error Document := do
  return d.replaceText (Csv.write (← f d.grid))

/-- Writes a body cell; a column formula fills the whole column. -/
def setCell (row column : Nat) (value : String) : Document → Except Error Document :=
  editGrid (Grid.setCell row column value)

/-- Names a column; a column formula fills the column in place of that. -/
def setHeader (column : Nat) (name : String) : Document → Except Error Document :=
  editGrid (Grid.renameColumn column name)

def setFooter (column : Nat) (value : String) : Document → Except Error Document :=
  editGrid fun g => .ok (g.setFooterCell column value)

def insertRowAbove (id : String) (row : Nat) : Document → Except Error Document :=
  editGrid (Grid.insertRowAbove id row)

def insertRowBelow (id : String) (row : Nat) : Document → Except Error Document :=
  editGrid (Grid.insertRowBelow id row)

def appendRow (id : String) : Document → Except Error Document :=
  editGrid fun g => .ok (g.appendRow id)

/-- Deletes an empty row; the last row of the body is kept. -/
def deleteRow (row : Nat) : Document → Except Error Document :=
  editGrid fun g => do
    match ← g.deleteEmptyRow row with
    | some g => return g
    | none => .error (if g.length ≤ 3 then .tableTooSmall else .rowNotEmpty)

def insertColumn (column : Nat) : Document → Except Error Document :=
  editGrid fun g => .ok (g.insertColumn column)

/-- Deletes a column, whatever it holds. -/
def deleteColumn (column : Nat) : Document → Except Error Document :=
  editGrid (Grid.deleteColumn column)

/-- Deletes a column that holds no value. -/
def deleteEmptyColumn (column : Nat) : Document → Except Error Document :=
  editGrid fun g => do
    match ← g.deleteEmptyColumn column with
    | some g => return g
    | none => .error .columnNotEmpty

def fillColumn (column : Nat) (value : String) : Document → Except Error Document :=
  editGrid (Grid.fillColumn column value)

def startDraft (d : Document) : Document := { d with history := d.history.startDraft }

def commitDraft (d : Document) : Document := { d with history := d.history.commitDraft }

def undo (d : Document) : Except Error Document :=
  match d.history.undo with
  | (true, history) => .ok { d with history := history }.textChanged
  | (false, _) => .error .nothingToUndo

def redo (d : Document) : Except Error Document :=
  match d.history.redo with
  | (true, history) => .ok { d with history := history }.textChanged
  | (false, _) => .error .nothingToRedo

/-- Changes the query, which is no step of the history. -/
def setQuerySpec (spec : String) (d : Document) : Document :=
  if spec = d.querySpec then d
  else { d with querySpec := spec, query := .ofSpec spec }.schedule { querySpec := some spec }

def rename (name : String) (d : Document) : Document :=
  if name = d.name then d else { d with name := name }.schedule { name := some name }

end FormulaSheet.Document
