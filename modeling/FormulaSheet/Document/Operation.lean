import FormulaSheet.Document.Press

/-!
Everything that can be done to a document, as a type.
-/

namespace FormulaSheet.Document

inductive Operation where
  | setCell (row column : Nat) (value : String)
  | setHeader (column : Nat) (name : String)
  | setFooter (column : Nat) (value : String)
  | insertRowAbove (row : Nat)
  | insertRowBelow (row : Nat)
  | appendRow
  | deleteRow (row : Nat)
  | insertColumn (column : Nat)
  | deleteColumn (column : Nat)
  | deleteEmptyColumn (column : Nat)
  | fillColumn (column : Nat) (value : String)
  | startDraft
  | commitDraft
  | undo
  | redo
  | setQuerySpec (spec : String)
  | rename (name : String)
  | replaceText (text : String)
  | pressButton (row column : Nat)
  deriving DecidableEq, Repr

/-- What is done in some surroundings, with the identifier of a new row; and the tables asked
for. -/
def perform (o : Outlook) (rowId : String) (d : Document) :
    Operation → Except Error Document × List String
  | .setCell row column value => (d.setCell row column value, [])
  | .setHeader column name => (d.setHeader column name, [])
  | .setFooter column value => (d.setFooter column value, [])
  | .insertRowAbove row => (d.insertRowAbove rowId row, [])
  | .insertRowBelow row => (d.insertRowBelow rowId row, [])
  | .appendRow => (d.appendRow rowId, [])
  | .deleteRow row => (d.deleteRow row, [])
  | .insertColumn column => (d.insertColumn column, [])
  | .deleteColumn column => (d.deleteColumn column, [])
  | .deleteEmptyColumn column => (d.deleteEmptyColumn column, [])
  | .fillColumn column value => (d.fillColumn column value, [])
  | .startDraft => (.ok d.startDraft, [])
  | .commitDraft => (.ok d.commitDraft, [])
  | .undo => (d.undo, [])
  | .redo => (d.redo, [])
  | .setQuerySpec spec => (.ok (d.setQuerySpec spec), [])
  | .rename name => (.ok (d.rename name), [])
  | .replaceText text => (.ok (d.replaceText text), [])
  | .pressButton row column =>
    let (result, asked) := d.pressButton o row column
    (result.map Prod.snd, asked)

end FormulaSheet.Document
