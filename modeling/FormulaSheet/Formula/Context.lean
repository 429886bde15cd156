import FormulaSheet.Number.Numeral
import FormulaSheet.Script.Value
import FormulaSheet.Table.Fields

/-!
What a formula can see: the table that it stands in, its place there, the other tables that it may
refer to, and the current day.
-/

namespace FormulaSheet

/-- Another table as formulas see it. -/
structure LinkedTable where
  id : String
  name : String
  columns : List String
  rows : List Fields
  footer : List String
  deriving Inhabited

namespace LinkedTable

/-- The identifier in a reference to a table, where a colon may stand in front. -/
def idOf? (reference : String) : Option String :=
  let id := match Number.trimmed reference.toList with
    | ':' :: cs => cs
    | cs => cs
  if id.isEmpty then none else some (String.ofList id)

end LinkedTable

/-- The surroundings of a formula. -/
structure Context where
  columns : List String := []
  rows : List Fields := []
  /-- The row that properties are read from, if it is given itself. -/
  row : Option Fields := none
  rowIndex : Option Nat := none
  columnIndex : Option Nat := none
  /-- How many formulas are already being evaluated around this one. -/
  depth : Nat := 0
  /-- The tables that can be referred to, by identifier. -/
  lookup : String → Option LinkedTable := fun _ => none
  today : Date

namespace Context

/-- Places a formula in a row. -/
def withRow (c : Context) (index : Nat) (fields : Fields) : Context :=
  { c with rowIndex := some index, row := some fields }

/-- Places a formula in a column. -/
def withColumn (c : Context) (index : Nat) : Context := { c with columnIndex := some index }

/-- The row that properties are read from: the given one, or the one at the row index, or the
first. -/
def currentRow? (c : Context) : Option Fields :=
  match c.row with
  | some row => some row
  | none => c.rows[c.rowIndex.getD 0]?

/-- The name of the column that the formula stands in. -/
def currentColumn? (c : Context) : Option String := c.columnIndex.bind (c.columns[·]?)

/-- The first column of a name when case is ignored. -/
def findColumn? (c : Context) (name : String) : Option String :=
  c.columns.find? fun column => sameName column name

/-- The texts of the column that the formula stands in, over all rows. -/
def columnTexts (c : Context) : List (Option String) :=
  match c.currentColumn? with
  | some name => c.rows.map fun row => row.get? name
  | none => []

end Context

/-! ## Rows in scripts -/

/-- The fields of a row as a map of texts. -/
def Fields.toMap (f : Fields) : List (String × Script.Value) :=
  Script.Entries.ofList (f.entries.map fun e => (e.1, .text e.2))

/-- Rows as a list of maps, each with its fields under `values`. -/
def Fields.rowsToScript (rows : List Fields) : Script.Value :=
  .array (rows.map fun f => .map [("values", .map f.toMap)]).toArray

/-- A table as a map. -/
def LinkedTable.toScript (t : LinkedTable) : Script.Value :=
  let texts := fun (xs : List String) => Script.Value.array (xs.map .text).toArray
  .map (Script.Entries.ofList
    [("id", .text t.id), ("name", .text t.name), ("columns", texts t.columns),
      ("rows", Fields.rowsToScript t.rows), ("footer", texts t.footer)])

/-- The variables of a formula. -/
def Context.bindings (c : Context) : List (String × Script.Value) :=
  let row := (c.row.map fun f => Script.Value.map f.toMap).getD .unit
  let index := fun (i : Option Nat) => (i.map fun n => Script.Value.int n).getD .unit
  [("rows", Fields.rowsToScript c.rows), ("columns", .array (c.columns.map .text).toArray),
    ("row", row), ("rowValues", row), ("rowIndex", index c.rowIndex),
    ("columnIndex", index c.columnIndex)]

end FormulaSheet
