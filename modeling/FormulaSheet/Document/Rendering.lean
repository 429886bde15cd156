import FormulaSheet.Document.Basic
import FormulaSheet.Query.Selection
import FormulaSheet.Table.Shown

/-!
What a document shows. Every formula is evaluated anew, in its own row and column; the rows are
those that the query selects. Each result comes with the tables that formulas asked for.
-/

namespace FormulaSheet

/-- What formulas see beyond their document. -/
structure Outlook where
  today : Date
  lookup : String → Option LinkedTable := fun _ => none

namespace Document

/-- The surroundings of a formula that stands in no row. -/
def context (o : Outlook) (d : Document) : Context :=
  { columns := d.view.columns, rows := d.view.allFields, lookup := o.lookup, today := o.today }

/-- The surroundings of a formula in a cell of the body. -/
def cellContext (o : Outlook) (d : Document) (row column : Nat) : Context :=
  ((d.context o).withRow row ((d.view.fields? row).getD {})).withColumn column

def showCell (c : Context) (raw : String) : ShownCell × List String :=
  let e := Formula.evaluate c raw
  let kind :=
    if !e.isFormula then .plain
    else if e.failure.isSome then .error
    else
      match e.value with
      | .button .. => .button
      | _ => .value
  (⟨raw, e.display, kind⟩, e.asked)

/-- The text of a body cell. -/
def rawCell? (d : Document) (row column : Nat) : Option String :=
  d.view.body[row]?.bind fun cells => cells[column]?

/-- One cell of the body. -/
def evaluateCell (o : Outlook) (row column : Nat) (d : Document) :
    Option ShownCell × List String :=
  match d.rawCell? row column with
  | some raw =>
    let (cell, asked) := showCell (d.cellContext o row column) raw
    (some cell, asked)
  | none => (none, [])

/-- A formula in no cell. -/
def evaluateFormula (o : Outlook) (text : String) (d : Document) : Evaluation :=
  Formula.evaluate (d.context o) text

/-- The rows that the query selects. -/
def queryView (o : Outlook) (d : Document) : Query.Selection := d.query.select (d.context o)

/-- The cells of a row, shown in some surroundings. -/
def showCells (c : Context) (raws : List String) : List (ShownCell × List String) :=
  raws.zipIdx.map fun (raw, column) => showCell (c.withColumn column) raw

/-- The whole table. -/
def render (o : Outlook) (d : Document) : ShownTable × List String :=
  let c := d.context o
  let selection := d.queryView o
  let rows := selection.rows.map fun r =>
    (r.index, showCells (c.withRow r.index r.fields) (d.view.body.getD r.index []))
  let footer := showCells c d.view.footer
  ({ columns := d.view.columns
     rows := rows.map fun (index, cells) => ⟨index, cells.map Prod.fst⟩
     footer := footer.map Prod.fst },
    (rows.flatMap Prod.snd ++ footer).flatMap Prod.snd ++ selection.asked)

end Document

end FormulaSheet
