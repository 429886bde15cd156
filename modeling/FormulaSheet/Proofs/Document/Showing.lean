import FormulaSheet.Document.Rendering
import FormulaSheet.Proofs.Query.Selection

/-!
The shown table and single cells. A table is shown row by row with the fields that the query has
selected, and a cell is evaluated alone in a row that is read anew from the text. Both show the same
(`render_agrees`), since a selected row has the fields of its place in the body.
-/

namespace FormulaSheet.Document

variable {o : Outlook} {d : Document} {i j : Nat}

/-! ## Cells -/

theorem getElem?_showCells (c : Context) (raws : List String) (j : Nat) :
    (showCells c raws)[j]? = raws[j]?.map fun raw => showCell (c.withColumn j) raw := by
  rw [showCells, List.getElem?_map, List.getElem?_zipIdx]
  cases raws[j]? with
  | none => rfl
  | some raw => simp

theorem fields?_of_mem_queryView {r : Query.Row} (hr : r ∈ (d.queryView o).rows) :
    d.view.fields? r.index = some r.fields := by
  have hselected : d.view.allFields[r.index]? = some r.fields := (Query.mem_rows_selectFrom.mp hr).1
  rw [View.allFields, List.getElem?_map] at hselected
  exact hselected

/-- The shown rows are the selected ones, each with the cells of its place in the body. -/
theorem mem_rows_render {row : ShownRow} :
    row ∈ (d.render o).1.rows ↔ ∃ r ∈ (d.queryView o).rows, ∃ cells,
      d.view.body[r.index]? = some cells ∧
        row = ⟨r.index,
          (showCells ((d.context o).withRow r.index r.fields) cells).map Prod.fst⟩ := by
  simp only [render, List.map_map, List.mem_map, Function.comp_apply]
  constructor
  · rintro ⟨r, hr, rfl⟩
    obtain ⟨cells, hcells, -⟩ := Option.map_eq_some_iff.mp (fields?_of_mem_queryView hr)
    refine ⟨r, hr, cells, hcells, ?_⟩
    rw [List.getD_eq_getElem?_getD, hcells, Option.getD_some]
  · rintro ⟨r, hr, cells, hcells, rfl⟩
    refine ⟨r, hr, ?_⟩
    rw [List.getD_eq_getElem?_getD, hcells, Option.getD_some]

/-- The table shows a row as its cells are shown one by one. -/
theorem render_cell {row : ShownRow} (hrow : row ∈ (d.render o).1.rows) :
    row.cells[j]? = (d.evaluateCell o row.index j).1 := by
  obtain ⟨r, hr, cells, hcells, rfl⟩ := mem_rows_render.mp hrow
  have hcontext : d.cellContext o r.index j =
      ((d.context o).withRow r.index r.fields).withColumn j := by
    rw [cellContext, fields?_of_mem_queryView hr, Option.getD_some]
  rw [List.getElem?_map, getElem?_showCells]
  simp only [evaluateCell, rawCell?, hcells, Option.bind_some, hcontext]
  cases cells[j]? <;> rfl

end FormulaSheet.Document
