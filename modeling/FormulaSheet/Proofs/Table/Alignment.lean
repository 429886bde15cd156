import FormulaSheet.Proofs.Table.Columns

/-!
Columns and the view. A short row gets its new cell at its end and keeps all its cells when a column
beyond them is deleted, so rows of different lengths are edited in different places. In the view,
where every row has the width of the header, the places are the same (`padRow_insertIdx`,
`padRow_eraseIdx`), and every cell stays under its header.
-/

namespace FormulaSheet

section

variable {width c : Nat}

/-! ## Rows -/

theorem padRow_cons (width : Nat) (cell : String) (row : List String) :
    padRow (width + 1) (cell :: row) = cell :: padRow width row := by
  simp only [padRow, List.length_cons, Nat.add_sub_add_right, List.cons_append]

theorem padRow_nil (width : Nat) : padRow width [] = List.replicate width "" := by
  simp only [padRow, List.length_nil, Nat.sub_zero, List.nil_append]

theorem padRow_length (row : List String) : padRow row.length row = row := by
  simp only [padRow, Nat.sub_self, List.replicate_zero, List.append_nil]

theorem replicate_insertIdx (h : c ≤ width) :
    (List.replicate width "").insertIdx c "" = List.replicate (width + 1) "" := by
  induction c generalizing width with
  | zero => rfl
  | succ c ih =>
    obtain ⟨n, rfl⟩ : ∃ n, width = n + 1 := ⟨width - 1, by omega⟩
    rw [List.replicate_succ, List.insertIdx_succ_cons, ih (by omega), ← List.replicate_succ]

/-- A new cell is seen in its place, also where the row was too short for that place. -/
theorem padRow_insertIdx (h : c ≤ width) (row : List String) :
    padRow (width + 1) (row.insertIdx (min c row.length) "") =
      (padRow width row).insertIdx c "" := by
  induction row generalizing c width with
  | nil =>
    rw [List.length_nil, Nat.min_zero, List.insertIdx_zero, padRow_cons, padRow_nil,
      replicate_insertIdx h, List.replicate_succ]
  | cons cell row ih =>
    cases c with
    | zero => rw [Nat.zero_min, List.insertIdx_zero, List.insertIdx_zero, padRow_cons]
    | succ c =>
      obtain ⟨n, rfl⟩ : ∃ n, width = n + 1 := ⟨width - 1, by omega⟩
      rw [List.length_cons, Nat.succ_min_succ, List.insertIdx_succ_cons, padRow_cons, padRow_cons,
        List.insertIdx_succ_cons, ih (by omega)]

/-- A cell is gone from its place, also where the row was too short to have it. -/
theorem padRow_eraseIdx (h : c < width) (row : List String) :
    padRow (width - 1) (row.eraseIdx c) = (padRow width row).eraseIdx c := by
  obtain ⟨n, rfl⟩ : ∃ n, width = n + 1 := ⟨width - 1, by omega⟩
  rw [Nat.add_sub_cancel]
  induction row generalizing c n with
  | nil =>
    rw [List.eraseIdx_nil, padRow_nil, padRow_nil, List.eraseIdx_replicate, if_pos h,
      Nat.add_sub_cancel]
  | cons cell row ih =>
    rw [padRow_cons]
    cases c with
    | zero => rfl
    | succ c =>
      obtain ⟨m, rfl⟩ : ∃ m, n = m + 1 := ⟨n - 1, by omega⟩
      rw [List.eraseIdx_cons_succ, List.eraseIdx_cons_succ, padRow_cons, ih m (by omega)]

end

namespace Grid

variable {g : Grid} {c : Nat}

/-! ## Grids -/

/-- The view of a grid with every row of it changed alike. A grid of one row has no footer. -/
def viewThrough (change : List String → List String) (g : Grid) : View where
  columns := change g.columns
  body := g.body.map change
  footer := if g.length ≤ 1 then [] else change g.footer

theorem columns_map {f : List String → List String} (hg : g ≠ []) :
    columns (g.map f) = f g.columns := by
  cases g with
  | nil => exact absurd rfl hg
  | cons header rows => rfl

theorem width_map {f : List String → List String} (hg : g ≠ []) :
    width (g.map f) = (f g.columns).length := congrArg List.length (columns_map hg)

/-- A change of the rows is seen as a change of the view when it goes together with filling up. -/
theorem view_map {f change : List String → List String} (hg : g ≠ [])
    (h : ∀ row, padRow (f g.columns).length (f row) = change (padRow g.width row)) :
    View.ofGrid (g.map f) = g.viewThrough change := by
  have hcolumns : columns (g.map f) = change g.columns := by
    have hheader := h g.columns
    rw [padRow_length, show g.width = g.columns.length from rfl, padRow_length] at hheader
    rw [columns_map hg, hheader]
  have hbody : body (g.map f) = g.body.map change := by
    rw [body, body, bodyRows, bodyRows, width_map hg, ← List.map_drop, ← List.map_dropLast,
      List.map_map, List.map_map]
    exact List.map_congr_left fun row _ => h row
  have hfooter : footer (g.map f) = if g.length ≤ 1 then [] else change g.footer := by
    unfold footer
    rw [List.length_map, width_map hg]
    split
    · rfl
    · rw [← h, List.getLastD_eq_getLast?, List.getLastD_eq_getLast?, List.getLast?_map,
        List.getLast?_eq_some_getLast hg]
      rfl
  rw [View.ofGrid, hcolumns, hbody, hfooter]
  rfl

theorem insertColumn_eq (hg : g ≠ []) (c : Nat) :
    g.insertColumn c = g.map fun row => row.insertIdx (min c row.length) "" := by
  unfold insertColumn
  rw [if_neg (by simpa using hg)]

theorem deleteColumn_eq (h : c < g.width) : g.deleteColumn c = .ok (g.map (·.eraseIdx c)) := by
  unfold deleteColumn checkColumn
  rw [if_pos h]
  rfl

theorem length_insertIdx_min (c : Nat) (row : List String) :
    (row.insertIdx (min c row.length) "").length = row.length + 1 := by
  rw [List.length_insertIdx, if_pos (Nat.min_le_right c row.length)]

theorem view_insertColumn (hg : g ≠ []) (hc : c ≤ g.width) :
    View.ofGrid (g.insertColumn c) = g.viewThrough (·.insertIdx c "") := by
  rw [insertColumn_eq hg]
  refine view_map hg fun row => ?_
  rw [length_insertIdx_min]
  exact padRow_insertIdx hc row

theorem view_eraseColumn (hc : c < g.width) :
    View.ofGrid (g.map (·.eraseIdx c)) = g.viewThrough (·.eraseIdx c) := by
  have hg : g ≠ [] := by
    rintro rfl
    cases hc
  refine view_map hg fun row => ?_
  have hlength : (g.columns.eraseIdx c).length = g.width - 1 := List.length_eraseIdx_of_lt hc
  rw [hlength]
  exact padRow_eraseIdx hc row

theorem viewThrough_id (g : Grid) : g.viewThrough id = View.ofGrid g := by
  unfold viewThrough View.ofGrid footer
  rw [List.map_id]
  split <;> rfl

/-- A column that is inserted and deleted again leaves no trace in the view. In the grid it may
leave one: a row that ended before it is a cell longer. -/
theorem view_erase_insertColumn (hg : g ≠ []) (hc : c ≤ g.width) :
    View.ofGrid ((g.insertColumn c).map (·.eraseIdx c)) = View.ofGrid g := by
  rw [insertColumn_eq hg, List.map_map, ← viewThrough_id g]
  refine view_map hg fun row => ?_
  have hlength : ((g.columns.insertIdx (min c g.columns.length) "").eraseIdx c).length =
      g.width := by
    rw [List.length_eraseIdx_of_lt, length_insertIdx_min]
    · rfl
    · rw [length_insertIdx_min]
      exact Nat.lt_succ_of_le hc
  calc padRow ((g.columns.insertIdx (min c g.columns.length) "").eraseIdx c).length
        ((row.insertIdx (min c row.length) "").eraseIdx c)
      = padRow (g.width + 1 - 1) ((row.insertIdx (min c row.length) "").eraseIdx c) := by
        rw [hlength, Nat.add_sub_cancel]
    _ = (padRow (g.width + 1) (row.insertIdx (min c row.length) "")).eraseIdx c :=
        padRow_eraseIdx (Nat.lt_succ_of_le hc) _
    _ = ((padRow g.width row).insertIdx c "").eraseIdx c := by rw [padRow_insertIdx hc]
    _ = padRow g.width row := List.eraseIdx_insertIdx_self _

theorem width_insertColumn (hg : g ≠ []) (c : Nat) :
    (g.insertColumn c).width = g.width + 1 := by
  rw [insertColumn_eq hg, width_map hg, length_insertIdx_min]
  rfl

/-- Every cell stays under its header. An inserted column is seen as an empty cell in its place in
the header, in every body row and in the footer, and is gone after its deletion; a deleted column
is seen as a cell less in its place in each of them. -/
theorem columns_stay_aligned (hg : g ≠ []) (c : Nat) :
    (c ≤ g.width →
      View.ofGrid (g.insertColumn c) = g.viewThrough (·.insertIdx c "") ∧
      ((g.insertColumn c).deleteColumn c).map View.ofGrid = .ok (View.ofGrid g)) ∧
    (c < g.width →
      (g.deleteColumn c).map View.ofGrid = .ok (g.viewThrough (·.eraseIdx c))) := by
  refine ⟨fun hc => ⟨view_insertColumn hg hc, ?_⟩, fun hc => ?_⟩
  · have hlt : c < (g.insertColumn c).width := by
      rw [width_insertColumn hg]
      exact Nat.lt_succ_of_le hc
    rw [deleteColumn_eq hlt, Except.map, view_erase_insertColumn hg hc]
  · rw [deleteColumn_eq hc, Except.map, view_eraseColumn hc]

/-- Rows shorter and longer than the header, and a column between two others. -/
theorem columns_stay_aligned_ragged :
    let g : Grid := [["a", "b", "c"], ["x"], ["y", "z", "u", "v"], []]
    View.ofGrid (g.insertColumn 2) =
        ⟨["a", "b", "", "c"], [["x", "", "", ""], ["y", "z", "", "u", "v"]], ["", "", "", ""]⟩ ∧
      ((g.insertColumn 2).deleteColumn 2).map View.ofGrid = .ok (View.ofGrid g) ∧
      (g.deleteColumn 2).map View.ofGrid =
        .ok ⟨["a", "b"], [["x", ""], ["y", "z", "v"]], ["", ""]⟩ := by
  intro g
  have haligned := columns_stay_aligned (g := g) (by simp [g]) 2
  have hle : 2 ≤ g.width := by decide
  have hlt : 2 < g.width := by decide
  exact ⟨(haligned.1 hle).1, (haligned.1 hle).2, haligned.2 hlt⟩

end Grid

end FormulaSheet
