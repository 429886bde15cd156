import FormulaSheet.Formula.Evaluation

/-!
Pressing buttons. The function of a button is called with the places of the row and the column and
with the rows, and whatever it leaves in the rows is read back as texts.
-/

namespace FormulaSheet

/-- The fields under some columns that a map holds, by their shown texts; what it does not hold
stays as it was. -/
def Fields.ofMap (columns : List String) (entries : List (String × Script.Value))
    (former : Fields) : Fields :=
  Fields.ofList (columns.map fun name =>
    match Script.Entries.get? entries name with
    | some v => (name, v.shown)
    | none => (name, (former.get? name).getD ""))

namespace Formula

open Script

/-- The fields that a script has left in the place of a row; anything but a map of values leaves
the row as it was. -/
def rowAfter (columns : List String) (left : Option Value) (former : Fields) : Fields :=
  match left with
  | some (.map entries) =>
    match Entries.get? entries "values" with
    | some (.map values) => Fields.ofMap columns values former
    | _ => former
  | _ => former

/-- The rows after a script has left a value in their place. -/
def rowsAfter (columns : List String) (left : Value) (rows : List Fields) : List Fields :=
  let items := match left with
    | .array items => items
    | _ => #[]
  rows.zipIdx.map fun (row, i) => rowAfter columns items[i]? row

/-- Calls the function of a button that was evaluated in a context, at a row and a column; gives what
it leaves in the place of the rows or why it failed, and the tables asked for. -/
def leave (c : Context) (action : Action Value) (rows : List Fields) (row column : Nat) :
    Except String Value × List String :=
  let world := world c action.functions (readProperty (evaluateAt (levelsIn c - 1)) c)
  let cells := action.cells.getD #[]
  let place := cells.size
  let machine := world.machine Limits.nesting
  let call := world.apply machine (world.library machine) (.function action.callback action.given)
    none [.int row, .int column, .shared place]
  match call { cells := cells.push (Fields.rowsToScript rows) } with
  | .ok _ s => (.ok (s.cells.getD place .unit), s.asked)
  | .error (.failed f) s => (.error f.message, s.asked)
  | .error _ s => (.ok (s.cells.getD place .unit), s.asked)

/-- Presses a button; gives the rows afterwards or why it failed, and the tables asked for. -/
def press (c : Context) (action : Action Value) (columns : List String) (rows : List Fields)
    (row column : Nat) : Except String (List Fields) × List String :=
  let (left, asked) := leave c action rows row column
  (left.map fun left => rowsAfter columns left rows, asked)

end Formula

end FormulaSheet
