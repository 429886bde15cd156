import FormulaSheet.Proofs.Document.Edits

/-!
What is seen of a document after an edit of its grid. The grid is written as a text and read again,
and a text cannot tell a row without cells from a row with one empty cell. No row is seen narrower
than the header, so this shows in the header alone: the view is that of the grid which the
edit has made (`view_of_edited`), unless this has no columns. That happens when the only column is
deleted, and then an empty column stands in its place (`view_of_only_column_deleted`).
-/

namespace FormulaSheet

open Csv (filled filledRow)

/-! ## Grids and their texts -/

theorem padRow_filledRow {width : Nat} (h : 0 < width) (row : List String) :
    padRow width (filledRow row) = padRow width row := by
  cases row with
  | cons cell row => rfl
  | nil =>
    obtain ⟨n, rfl⟩ : ∃ n, width = n + 1 := ⟨width - 1, by omega⟩
    simp [padRow, filledRow, List.replicate_succ]

theorem Grid.columns_filled (g : Grid) : columns (filled g) = filledRow g.columns := by
  cases g <;> rfl

/-- As long as there are columns, a view does not tell rows without cells from filled ones. -/
theorem View.ofGrid_filled {g : Grid} (h : g.columns ≠ []) : ofGrid (filled g) = ofGrid g := by
  cases g with
  | nil => exact absurd rfl h
  | cons header rows =>
    have hheader : header ≠ [] := h
    have hwidth : 0 < header.length := List.length_pos_iff.mpr hheader
    have hfilled : filled (header :: rows) = header :: rows.map filledRow := by
      show filledRow header :: rows.map filledRow = _
      rw [Csv.filledRow_of_ne_nil hheader]
    have hbody : Grid.body (header :: rows.map filledRow) = Grid.body (header :: rows) := by
      show ((rows.map filledRow).dropLast).map (padRow header.length) =
        rows.dropLast.map (padRow header.length)
      rw [← List.map_dropLast, List.map_map]
      apply List.map_congr_left
      intro row _
      exact padRow_filledRow hwidth row
    have hfooter : Grid.footer (header :: rows.map filledRow) = Grid.footer (header :: rows) := by
      cases hrows : rows.getLast? with
      | none =>
        obtain rfl : rows = [] := List.getLast?_eq_none_iff.mp hrows
        rfl
      | some row =>
        obtain ⟨before, rfl⟩ := List.getLast?_eq_some_iff.mp hrows
        have hlast (more : List (List String)) (last : List String) :
            Grid.footer (header :: (more ++ [last])) = padRow header.length last := by
          have hlength : ¬ (header :: (more ++ [last])).length ≤ 1 := by simp
          unfold Grid.footer
          rw [if_neg hlength, ← List.cons_append, List.getLastD_concat]
          rfl
        rw [List.map_append, List.map_singleton, hlast, hlast, padRow_filledRow hwidth]
    rw [hfilled]
    simp only [ofGrid, hbody, hfooter]
    rfl

namespace Document

theorem grid_columns_ne_nil (d : Document) : d.grid.columns ≠ [] := by
  obtain ⟨hgrid, hrows⟩ := Csv.read_isFilled d.text
  unfold grid
  cases hg : Csv.read d.text with
  | nil => exact absurd hg hgrid
  | cons header rows => exact hrows header (by rw [hg]; exact List.mem_cons_self)

theorem view_replaceText_write (g : Grid) (d : Document) :
    (d.replaceText (Csv.write g)).view = View.ofGrid (filled g) := by
  unfold view
  rw [grid_replaceText_write]

/-! ## Edits and the columns -/

namespace Operation

/-- The column that an operation deletes. -/
def deletedColumn? : Operation → Option Nat
  | .deleteColumn column | .deleteEmptyColumn column => some column
  | _ => none

variable {rowId : String} {op : Operation} {g g' : Grid}

theorem Edits.columns_of_deletedColumn? (h : op.Edits rowId g g') {column : Nat}
    (hop : op.deletedColumn? = some column) :
    column < g.width ∧ g'.columns = g.columns.eraseIdx column := by
  cases h with
  | deleteColumn h =>
    cases hop
    exact Grid.columns_deleteColumn h
  | deleteEmptyColumn h =>
    cases hop
    exact Grid.columns_deleteColumn (Grid.deleteColumn_of_deleteEmptyColumn h)
  | _ => cases hop

/-- No other edit takes a column away. -/
theorem Edits.width_le (h : op.Edits rowId g g') (hg : g ≠ [])
    (hop : op.deletedColumn? = none) : g.columns.length ≤ g'.columns.length := by
  have same {g' : Grid} (h : g'.columns = g.columns) : g.columns.length ≤ g'.columns.length :=
    Nat.le_of_eq (congrArg List.length h.symm)
  cases h with
  | setCell h => exact same (Grid.columns_setCell h)
  | setHeader h =>
    rw [Grid.columns_renameColumn h]
    split
    · exact Nat.le_refl _
    · rw [Grid.length_writeAt]
      omega
  | setFooter column value => exact same (Grid.columns_setFooterCell hg column value)
  | insertRowAbove h => exact same (Grid.columns_insertRowAbove hg h)
  | insertRowBelow h => exact same (Grid.columns_insertRowBelow hg h)
  | appendRow => exact same (Grid.columns_appendRow hg rowId)
  | deleteRow h => exact same (Grid.columns_deleteEmptyRow h)
  | insertColumn column =>
    rw [Grid.columns_insertColumn hg, List.length_insertIdx]
    split <;> omega
  | deleteColumn => cases hop
  | deleteEmptyColumn => cases hop
  | fillColumn h => exact same (Grid.columns_fillColumn h)

/-- The columns are gone exactly when there was one and it was deleted. -/
theorem Edits.columns_eq_nil_iff (h : op.Edits rowId g g') (hg : g.columns ≠ []) :
    g'.columns = [] ↔ g.columns.length = 1 ∧ op.deletedColumn?.isSome := by
  have hlength : 0 < g.columns.length := List.length_pos_iff.mpr hg
  have hne : g ≠ [] := by
    rintro rfl
    exact hg rfl
  rw [← List.length_eq_zero_iff]
  cases hop : op.deletedColumn? with
  | some column =>
    obtain ⟨hlt, hcolumns⟩ := h.columns_of_deletedColumn? hop
    have hlt : column < g.columns.length := hlt
    rw [hcolumns, List.length_eraseIdx_of_lt hlt]
    constructor
    · intro hzero
      exact ⟨by omega, rfl⟩
    · rintro ⟨hone, -⟩
      omega
  | none =>
    have hle := h.width_le hne hop
    constructor
    · intro hzero
      omega
    · rintro ⟨-, hsome⟩
      cases hsome

end Operation

/-! ## What is seen afterwards -/

variable {d d' : Document} {o : Outlook} {rowId : String} {op : Operation}

/-- After an edit of the grid that succeeds, the view is that of the grid which the edit has made;
where it was the only column that was deleted, one empty column is seen instead. A deleted column
is one less, unless it was the only one. -/
theorem view_of_edited (hop : op.isGridEdit = true) (h : (d.perform o rowId op).1 = .ok d') :
    ∃ g, op.Edits rowId d.grid g ∧
      (if d.view.columns.length = 1 ∧ op.deletedColumn?.isSome then
        d'.view.columns = [""] ∧ d'.view = View.ofGrid (filled g)
      else d'.view = View.ofGrid g) ∧
      ∀ column, op.deletedColumn? = some column →
        d'.view.columns.length = max 1 (d.view.columns.length - 1) := by
  obtain ⟨g, hedit, rfl⟩ := perform_gridEdit hop h
  have hnone := hedit.columns_eq_nil_iff d.grid_columns_ne_nil
  have hview : (d.replaceText (Csv.write g)).view = View.ofGrid (filled g) :=
    view_replaceText_write g d
  have hcolumns : (d.replaceText (Csv.write g)).view.columns = filledRow g.columns := by
    rw [hview]
    exact Grid.columns_filled g
  refine ⟨g, hedit, ?_, ?_⟩
  · split
    · rename_i honly
      have hempty : g.columns = [] := hnone.mpr honly
      constructor
      · rw [hcolumns, hempty]
        rfl
      · exact hview
    · rename_i honly
      have hsome : g.columns ≠ [] := fun hempty => honly (hnone.mp hempty)
      rw [hview, View.ofGrid_filled hsome]
  · intro column hcolumn
    obtain ⟨hlt, herase⟩ := hedit.columns_of_deletedColumn? hcolumn
    have hlt : column < d.view.columns.length := hlt
    have hlength : g.columns.length = d.view.columns.length - 1 := by
      rw [herase]
      exact List.length_eraseIdx_of_lt hlt
    rw [hcolumns, ← hlength]
    cases hg : g.columns with
    | nil => rfl
    | cons name names =>
      simp only [filledRow, List.length_cons]
      omega

/-- Rows of several lengths, one of them without cells once the first column is gone. -/
def ragged : Document := new 0 "a,b\nx\ny,z,w\n,"

theorem view_of_edited_ragged :
    ∃ d', (ragged.perform { today := Instant.epoch.day } "r" (.deleteColumn 0)).1 = .ok d' ∧
      d'.view = ⟨["b"], [[""], ["z", "w"]], [""]⟩ ∧
      ∃ g, Operation.Edits "r" (.deleteColumn 0) ragged.grid g ∧ d'.view = View.ofGrid g := by
  have hdelete : (ragged.perform { today := Instant.epoch.day } "r" (.deleteColumn 0)).1 =
      .ok (ragged.replaceText "b\n\nz,w\n") := rfl
  obtain ⟨g, hedit, hview, -⟩ := view_of_edited rfl hdelete
  have htwo : ¬ (ragged.view.columns.length = 1 ∧
      (Operation.deletedColumn? (.deleteColumn 0)).isSome) := by decide
  rw [if_neg htwo] at hview
  exact ⟨_, hdelete, rfl, g, hedit, hview⟩

/-- A table with one column. -/
def oneColumn : Document := new 0 "a\nb\nc"

/-- The only column of a table is deleted without an error, and one column is seen afterwards. -/
theorem view_of_only_column_deleted :
    (oneColumn.deleteColumn 0).map view = .ok ⟨[""], [[""]], [""]⟩ ∧
      (oneColumn.grid.deleteColumn 0).map View.ofGrid = .ok ⟨[], [[]], []⟩ ∧
      oneColumn.view.columns.length = 1 :=
  ⟨rfl, rfl, rfl⟩

end Document

end FormulaSheet
