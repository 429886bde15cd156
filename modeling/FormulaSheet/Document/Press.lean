import FormulaSheet.Document.Edit
import FormulaSheet.Document.Rendering
import FormulaSheet.Formula.Press

/-!
Pressing the buttons of a document. What the function of a button leaves in the rows is written
back as one edit, for the rows that it changed.
-/

namespace FormulaSheet.Document

/-- Writes fields into a row of a grid under some columns. -/
def writeFields (columns : List String) (f : Fields) (row : List String) : List String :=
  f.toRow columns (padRow columns.length row)

/-- The body rows whose fields have changed, by their places. -/
def changedRows (before after : List Fields) : List (Nat × Fields) :=
  (before.zip after).zipIdx.filterMap fun ((old, new), i) =>
    if new = old then none else some (i, new)

/-- Writes fields into the body rows at some places. -/
def writeRows (columns : List String) (changes : List (Nat × Fields)) (g : Grid) : Grid :=
  changes.foldl (fun g (i, f) => g.modify (i + 1) (writeFields columns f)) g

/-- The document with new fields in its rows, and how many rows these change. -/
def writeBack (after : List Fields) (d : Document) : Nat × Document :=
  let changes := changedRows d.view.allFields after
  if changes.isEmpty then (0, d)
  else (changes.length, d.replaceText (Csv.write (writeRows d.view.columns changes d.grid)))

/-- Presses a button in a cell of the body; gives the number of rows that it changes, and the
tables asked for. -/
def pressButton (o : Outlook) (row column : Nat) (d : Document) :
    Except Error (Nat × Document) × List String :=
  match d.rawCell? row column with
  | none => (.error (.notAButton row column), [])
  | some raw =>
    let c := d.cellContext o row column
    let e := Formula.evaluate c raw
    match e.failure, e.value with
    | some message, _ => (.error (.button message), e.asked)
    | none, .button _ action =>
      let (rows, asked) := Formula.press c action d.view.columns d.view.allFields row column
      match rows with
      | .ok rows => (.ok (d.writeBack rows), asked ++ e.asked)
      | .error message => (.error (.button message), asked ++ e.asked)
    | none, _ => (.error (.notAButton row column), e.asked)

end FormulaSheet.Document
