import FormulaSheet.Proofs.Table.NewRows

/-!
Writes of a value into cells: a cell of the body, of the footer or of the header, or a column of the
whole body. A column formula always goes into the whole column, except in the footer. Each write
fills some rows up and puts the value in one place of them (`perform_eq`). So the cells that are
written hold the value, all others read as before, and of two writes of one kind to one place only
the second counts (`write_frame`).
-/

namespace FormulaSheet.Grid

/-- The text of a cell. It is empty beyond the end of a row and below the last row. -/
def cellAt (g : Grid) (k j : Nat) : String := (g.getD k []).getD j ""

/-! ## Rows -/

section

variable {width c : Nat} {value : String} {row : List String}

theorem padRow_of_le (h : width ≤ row.length) : padRow width row = row := by
  rw [padRow, Nat.sub_eq_zero_of_le h, List.replicate_zero, List.append_nil]

theorem getD_writeAt (hc : c < width) (value : String) (row : List String) (j : Nat) :
    (writeAt width c value row).getD j "" = if j = c then value else row.getD j "" := by
  have hlength : c < (padRow width row).length := by
    simp only [padRow, List.length_append, List.length_replicate]
    omega
  unfold writeAt
  by_cases hj : j = c
  · rw [if_pos hj, hj, List.getD_eq_getElem?_getD, List.getElem?_set_self hlength]
    rfl
  · rw [if_neg hj, ← getD_padRow width row j, List.getD_eq_getElem?_getD,
      List.getD_eq_getElem?_getD, List.getElem?_set_ne (Ne.symm hj)]

theorem writeAt_writeAt (width c : Nat) (first second : String) (row : List String) :
    writeAt width c second (writeAt width c first row) = writeAt width c second row := by
  have hpad : padRow width (writeAt width c first row) = writeAt width c first row :=
    padRow_of_le (by rw [length_writeAt]; exact Nat.le_max_left _ _)
  rw [writeAt, hpad, writeAt, List.set_set]
  rfl

/-- Filling up a row of empty cells comes to the same as filling up none. -/
theorem writeAt_replicate {n : Nat} (h : n ≤ width) (c : Nat) (value : String) :
    writeAt width c value (List.replicate n "") = writeAt width c value [] := by
  have hpad : padRow width (List.replicate n "") = padRow width [] := by
    simp only [padRow, List.length_replicate, List.length_nil, Nat.sub_zero, List.nil_append,
      List.replicate_append_replicate]
    rw [Nat.add_sub_cancel' h]
  rw [writeAt, writeAt, hpad]

end

/-! ## What a write does -/

theorem getElem?_mapBody (f : List String → List String) (g : Grid) (k : Nat) :
    (g.mapBody f)[k]? = if 0 < k ∧ k + 1 < g.length then g[k]?.map f else g[k]? := by
  cases g with
  | nil => simp [mapBody]
  | cons header rows =>
    cases k with
    | zero => simp [mapBody]
    | succ k =>
      simp only [mapBody, List.getElem?_cons_succ, List.length_cons, Nat.succ_pos, true_and]
      by_cases hk : k < rows.length - 1
      · have hlt : k < (rows.dropLast.map f).length := by
          rw [List.length_map, List.length_dropLast]
          exact hk
        rw [List.getElem?_append_left hlt, List.getElem?_map, List.getElem?_dropLast, if_pos hk,
          if_pos (by omega)]
      · have hle : (rows.dropLast.map f).length ≤ k := by
          rw [List.length_map, List.length_dropLast]
          omega
        rw [List.getElem?_append_right hle, List.length_map, List.length_dropLast,
          List.getElem?_drop, if_neg (by omega), Nat.add_sub_cancel' (by omega)]

/-- What a value is written into. -/
inductive CellWrite where
  | cell (i c : Nat)
  | footer (c : Nat)
  | header (c : Nat)
  /-- A column of every body row. -/
  | column (c : Nat)

namespace CellWrite

variable {g g' : Grid} {w : CellWrite} {value first second : String} {i c k : Nat}

/-- Writes a value. -/
def perform (value : String) (g : Grid) : CellWrite → Except Error Grid
  | cell i c => g.setCell i c value
  | footer c => .ok (g.setFooterCell c value)
  | header c => g.renameColumn c value
  | column c => g.fillColumn c value

/-- What is written into in fact: for a column formula the whole column, except in the footer. -/
def target (value : String) : CellWrite → CellWrite
  | cell i c => if isColumnFormula value then column c else cell i c
  | header c => if isColumnFormula value then column c else header c
  | w => w

/-- The place of the value in its rows. -/
def index : CellWrite → Nat
  | cell _ c | footer c | header c | column c => c

/-- How many rows there have to be; missing ones are added. -/
def rowsNeeded : CellWrite → Nat
  | header _ => 1
  | footer _ => 2
  | _ => 0

/-- Whether the value goes into a row. The footer is the last row, and never the first. -/
def isFor (g : Grid) (k : Nat) : CellWrite → Bool
  | cell i _ => k = i + 1
  | footer _ => k + 1 = max g.length 2
  | header _ => k = 0
  | column _ => 0 < k ∧ k + 1 < g.length

/-- The width to which a row is filled up. -/
def reach (g : Grid) : CellWrite → Nat
  | cell _ c | footer c => max g.width (c + 1)
  | header c => c + 1
  | column _ => g.width

/-- The grid with the rows that there have to be. -/
def withRows (g : Grid) (w : CellWrite) : Grid :=
  g ++ List.replicate (w.rowsNeeded - g.length) []

/-- The grid with the value in its place of every row that it goes into. -/
def written (value : String) (g : Grid) (w : CellWrite) : Grid :=
  (w.withRows g).mapIdx fun k row =>
    if w.isFor g k then writeAt (w.reach g) w.index value row else row

/-- What is checked first. -/
def check (value : String) (g : Grid) : CellWrite → Except Error Unit
  | cell i c => do
    g.checkBodyIndex i
    if isColumnFormula value then g.checkColumn c
  | footer _ => .ok ()
  | header c => if isColumnFormula value then g.checkColumn c else .ok ()
  | column c => g.checkColumn c

theorem rowsNeeded_le (w : CellWrite) : w.rowsNeeded ≤ 2 := by
  cases w <;> simp [rowsNeeded]

theorem withRows_eq_self (h : w.rowsNeeded ≤ g.length) : w.withRows g = g := by
  rw [withRows, Nat.sub_eq_zero_of_le h, List.replicate_zero, List.append_nil]

theorem getElem?_written (value : String) (g : Grid) (w : CellWrite) (k : Nat) :
    (w.written value g)[k]? = (w.withRows g)[k]?.map fun row =>
      if w.isFor g k then writeAt (w.reach g) w.index value row else row := by
  rw [written, List.getElem?_mapIdx]

theorem length_written (value : String) (g : Grid) (w : CellWrite) :
    (w.written value g).length = max g.length w.rowsNeeded := by
  rw [written, List.length_mapIdx, withRows, List.length_append, List.length_replicate]
  omega

theorem modify_eq_written (value : String) (g : Grid) (i c : Nat) :
    g.modify (i + 1) (writeAt (max g.width (c + 1)) c value) = (cell i c).written value g := by
  refine List.ext_getElem? fun k => ?_
  rw [List.getElem?_modify, getElem?_written, withRows_eq_self (Nat.zero_le _)]
  simp only [isFor, reach, index, decide_eq_true_eq, eq_comm (a := i + 1)]
  split
  · rfl
  · rfl

theorem mapBody_eq_written (value : String) (g : Grid) (c : Nat) :
    g.mapBody (writeAt g.width c value) = (column c).written value g := by
  refine List.ext_getElem? fun k => ?_
  rw [getElem?_mapBody, getElem?_written, withRows_eq_self (Nat.zero_le _)]
  simp only [isFor, reach, index, decide_eq_true_eq]
  split
  · rfl
  · exact Option.map_id'.symm

theorem header_eq_written (value : String) (g : Grid) (c : Nat) :
    writeAt (c + 1) c value g.columns :: g.drop 1 = (header c).written value g := by
  refine List.ext_getElem? fun k => ?_
  rw [getElem?_written]
  cases g with
  | nil =>
    cases k with
    | zero => rfl
    | succ k => rfl
  | cons row rows =>
    rw [withRows_eq_self (Nat.le_add_left 1 _)]
    cases k with
    | zero => rfl
    | succ k => exact Option.map_id'.symm

theorem setFooterCell_eq_written (value : String) (g : Grid) (c : Nat) :
    g.setFooterCell c value = (footer c).written value g := by
  match g with
  | [] => rfl
  | [row] =>
    have hfooter := writeAt_replicate (Nat.le_max_left row.length (c + 1)) c value
    exact congrArg (fun footer => [row, footer]) hfooter
  | row :: next :: rows =>
    refine List.ext_getElem? fun k => ?_
    have hlast : (row :: next :: rows).length - 1 = k ↔
        k + 1 = max (row :: next :: rows).length 2 := by
      simp only [List.length_cons]
      omega
    rw [Grid.setFooterCell_eq (Nat.le_add_left 2 _), List.getElem?_modify, getElem?_written,
      withRows_eq_self (Nat.le_add_left 2 _)]
    simp only [isFor, reach, index, decide_eq_true_eq, hlast]
    split
    · rfl
    · rfl

theorem fillColumn_eq (value : String) (g : Grid) (c : Nat) :
    g.fillColumn c value = (g.checkColumn c).map fun _ => (column c).written value g := by
  unfold fillColumn
  rw [mapBody_eq_written]
  cases g.checkColumn c with
  | error e => rfl
  | ok _ => rfl

/-- After its checks a write fills up the rows of its target and puts the value in its place. -/
theorem perform_eq (value : String) (g : Grid) (w : CellWrite) :
    w.perform value g = (w.check value g).map fun _ => (w.target value).written value g := by
  cases w with
  | cell i c =>
    simp only [perform, setCell, check, target, fillColumn_eq, modify_eq_written]
    cases g.checkBodyIndex i with
    | error e => rfl
    | ok _ =>
      by_cases hformula : isColumnFormula value = true
      · simp only [if_pos hformula]
        rfl
      · simp only [if_neg hformula]
        rfl
  | footer c => exact congrArg Except.ok (setFooterCell_eq_written value g c)
  | header c =>
    simp only [perform, renameColumn, check, target, fillColumn_eq, header_eq_written]
    split
    · rfl
    · rfl
  | column c => exact fillColumn_eq value g c

/-! ## What is read after a write -/

theorem cellAt_withRows (w : CellWrite) (g : Grid) (k j : Nat) :
    (w.withRows g).cellAt k j = g.cellAt k j := by
  unfold cellAt withRows
  simp only [List.getD_eq_getElem?_getD, List.getElem?_append, List.getElem?_replicate]
  split
  · rfl
  · rename_i hk
    rw [List.getElem?_eq_none (Nat.le_of_not_lt hk)]
    split <;> rfl

/-- The rows that a value goes into are there, and its place in them is one that is filled up. -/
structure Fits (g : Grid) (w : CellWrite) : Prop where
  row : ∀ k, w.isFor g k = true → k < max g.length w.rowsNeeded
  index : w.index < w.reach g

theorem fits_cell (hi : i < g.bodySize) (c : Nat) : (cell i c).Fits g where
  row k hk := by
    unfold bodySize at hi
    simp only [isFor, decide_eq_true_eq] at hk
    omega
  index := Nat.lt_of_lt_of_le (Nat.lt_succ_self c) (Nat.le_max_right _ _)

theorem fits_footer (g : Grid) (c : Nat) : (footer c).Fits g where
  row k hk := by
    simp only [isFor, decide_eq_true_eq] at hk
    exact hk ▸ Nat.lt_succ_self k
  index := Nat.lt_of_lt_of_le (Nat.lt_succ_self c) (Nat.le_max_right _ _)

theorem fits_header (g : Grid) (c : Nat) : (header c).Fits g where
  row k hk := by
    simp only [isFor, decide_eq_true_eq] at hk
    simp only [rowsNeeded]
    omega
  index := Nat.lt_succ_self c

theorem fits_column (hc : c < g.width) : (column c).Fits g where
  row k hk := by
    simp only [isFor, decide_eq_true_eq] at hk
    exact Nat.lt_of_lt_of_le (Nat.lt_of_succ_lt hk.2) (Nat.le_max_left _ _)
  index := hc

/-- A write that passes its checks fits. -/
theorem fits_of_check (h : w.check value g = .ok ()) : (w.target value).Fits g := by
  cases w with
  | cell i c =>
    obtain ⟨_, hi, hcolumn⟩ := exists_of_bind_eq_ok h
    by_cases hformula : isColumnFormula value = true
    · rw [if_pos hformula] at hcolumn
      rw [target, if_pos hformula]
      exact fits_column (lt_width_of_checkColumn hcolumn)
    · rw [target, if_neg hformula]
      exact fits_cell (lt_bodySize_of_checkBodyIndex hi) c
  | footer c => exact fits_footer g c
  | header c =>
    by_cases hformula : isColumnFormula value = true
    · rw [check, if_pos hformula] at h
      rw [target, if_pos hformula]
      exact fits_column (lt_width_of_checkColumn h)
    · rw [target, if_neg hformula]
      exact fits_header g c
  | column c => exact fits_column (lt_width_of_checkColumn h)

theorem perform_eq_ok (h : w.perform value g = .ok g') :
    (w.target value).Fits g ∧ g' = (w.target value).written value g := by
  rw [perform_eq] at h
  cases hcheck : w.check value g with
  | error e => simp [hcheck, Except.map] at h
  | ok _ =>
    rw [hcheck] at h
    cases h
    exact ⟨fits_of_check hcheck, rfl⟩

theorem cellAt_written (h : w.Fits g) (value : String) (k j : Nat) :
    (w.written value g).cellAt k j =
      if w.isFor g k = true ∧ j = w.index then value else g.cellAt k j := by
  rw [← cellAt_withRows w g k j]
  unfold cellAt
  rw [List.getD_eq_getElem?_getD (l := w.written value g), getElem?_written,
    List.getD_eq_getElem?_getD (l := w.withRows g)]
  by_cases hfor : w.isFor g k = true
  · have hlt : k < (w.withRows g).length := by
      have hrow := h.row k hfor
      rw [withRows, List.length_append, List.length_replicate]
      omega
    rw [List.getElem?_eq_getElem hlt]
    simp only [Option.map_some, Option.getD_some, hfor, if_true, true_and]
    exact getD_writeAt h.index value _ j
  · simp only [hfor, if_false, false_and, Option.map_id', Bool.false_eq_true]

/-- Rows that the value does not go into stay as they are. -/
theorem getElem?_written_of_not {row : List String} (hfor : w.isFor g k = false)
    (hrow : g[k]? = some row) (value : String) : (w.written value g)[k]? = some row := by
  obtain ⟨hlt, -⟩ := List.getElem?_eq_some_iff.mp hrow
  rw [getElem?_written, withRows, List.getElem?_append_left hlt, hrow]
  simp [hfor]

/-! ## Two writes -/

theorem isFor_written (value : String) (g : Grid) (w : CellWrite) (k : Nat) :
    w.isFor (w.written value g) k = w.isFor g k := by
  cases w <;> simp only [isFor, length_written, rowsNeeded, Nat.max_zero, Nat.max_assoc,
    Nat.max_self]

theorem width_written_of_not (hfor : w.isFor g 0 = false) (value : String) :
    (w.written value g).width = g.width := by
  cases g with
  | nil =>
    unfold written withRows
    cases w.rowsNeeded - ([] : Grid).length with
    | zero => rfl
    | succ n => simp [width, List.replicate_succ, hfor]
  | cons row rows => simp [written, withRows, width, hfor]

/-- Only a name of a column goes into the first row. -/
theorem isFor_zero (h : w.rowsNeeded ≠ 1) (g : Grid) : w.isFor g 0 = false := by
  cases w with
  | cell i c => simp [isFor]
  | footer c =>
    simp only [isFor, decide_eq_false_iff_not]
    omega
  | header c => exact absurd rfl h
  | column c => simp [isFor]

theorem reach_written (value : String) (g : Grid) (w : CellWrite) :
    w.reach (w.written value g) = w.reach g := by
  cases w with
  | header c => rfl
  | _ =>
    rw [reach, width_written_of_not (isFor_zero (by simp [rowsNeeded]) g)]
    rfl

/-- Of two writes to one place the second counts. -/
theorem written_written (first second : String) (g : Grid) (w : CellWrite) :
    w.written second (w.written first g) = w.written second g := by
  refine List.ext_getElem? fun k => ?_
  have hrows : w.withRows (w.written first g) = w.written first g :=
    withRows_eq_self (by rw [length_written]; exact Nat.le_max_right _ _)
  rw [getElem?_written, hrows, getElem?_written, getElem?_written, Option.map_map]
  congr 1
  funext row
  simp only [Function.comp, isFor_written, reach_written]
  split
  · exact writeAt_writeAt _ _ _ _ _
  · rfl

theorem check_congr (hlength : g'.length = g.length) (hwidth : g'.width = g.width)
    (value : String) (w : CellWrite) : w.check value g' = w.check value g := by
  have hrow : g'.checkBodyIndex = g.checkBodyIndex := by
    funext i
    rw [checkBodyIndex, checkBodyIndex, bodySize, bodySize, hlength]
  have hcolumn : g'.checkColumn = g.checkColumn := by
    funext c
    rw [checkColumn, checkColumn, hwidth]
  cases w <;> simp only [check, hrow, hcolumn]

/-- A write that needs no rows changes nothing that is checked. -/
theorem check_written_of_needs_none (h : w.rowsNeeded = 0) (first second : String) (g : Grid)
    (next : CellWrite) : next.check second (w.written first g) = next.check second g := by
  refine check_congr ?_ (width_written_of_not (isFor_zero (by omega) g) first) second next
  rw [length_written, h, Nat.max_zero]

/-- The next write of the same kind passes the checks if it did before. -/
theorem check_written (h : w.target second = w.target first) :
    w.check second ((w.target first).written first g) = w.check second g := by
  rw [← h]
  cases w with
  | cell i c =>
    refine check_written_of_needs_none ?_ _ _ _ _
    rw [target]
    split
    · rfl
    · rfl
  | footer c => rfl
  | header c =>
    by_cases hformula : isColumnFormula second = true
    · rw [target, if_pos hformula]
      exact check_written_of_needs_none rfl _ _ _ _
    · rw [check, check, if_neg hformula, if_neg hformula]
  | column c => exact check_written_of_needs_none rfl _ _ _ _

theorem index_target (value : String) (w : CellWrite) : (w.target value).index = w.index := by
  cases w with
  | cell i c => rw [target]; split <;> rfl
  | header c => rw [target]; split <;> rfl
  | _ => rfl

/-- A write that passes its checks is a write into its target. -/
theorem perform_target (h : w.perform value g = .ok g') :
    (w.target value).perform value g = .ok g' := by
  cases w with
  | cell i c =>
    obtain ⟨_, hi, hwrite⟩ := exists_of_bind_eq_ok h
    by_cases hformula : isColumnFormula value = true
    · rw [if_pos hformula] at hwrite
      rwa [target, if_pos hformula]
    · rwa [target, if_neg hformula]
  | header c =>
    by_cases hformula : isColumnFormula value = true
    · rw [target, if_pos hformula]
      rwa [perform, renameColumn, if_pos hformula] at h
    · rwa [target, if_neg hformula]
  | _ => exact h

/-- After a write the cells it is for hold the value, all other cells read as before, and the rows
it is not for are the same; no row is added but a header or a footer that is missing. A column
formula is written as into the whole column. The write can be repeated and then changes nothing,
and it does not matter for another one of its kind to the same place. -/
theorem write_frame (h : w.perform value g = .ok g') :
    (w.target value).perform value g = .ok g' ∧
      (∀ k j, g'.cellAt k j =
        if (w.target value).isFor g k = true ∧ j = w.index then value else g.cellAt k j) ∧
      (∀ k row, (w.target value).isFor g k = false → g[k]? = some row → g'[k]? = some row) ∧
      g'.length = max g.length (w.target value).rowsNeeded ∧
      w.perform value g' = .ok g' ∧
      ∀ other, w.target other = w.target value → w.perform other g' = w.perform other g := by
  obtain ⟨hfits, rfl⟩ := perform_eq_ok h
  have hnext : ∀ other, w.target other = w.target value →
      w.perform other ((w.target value).written value g) = w.perform other g := by
    intro other hkind
    rw [perform_eq, perform_eq, check_written hkind, hkind, written_written]
  refine ⟨?_, fun k j => ?_, fun k row hfor hrow => getElem?_written_of_not hfor hrow value,
    length_written _ _ _, ?_, hnext⟩
  · exact perform_target h
  · rw [cellAt_written hfits, index_target]
  · rw [hnext value rfl, h]

/-- A column formula that is written into one cell of rows of several lengths. -/
theorem write_frame_ragged :
    let g : Grid := [["id", "a"], ["r", "b", "c"], ["s"], [""]]
    let g' : Grid := [["id", "a"], ["r", "% f", "c"], ["s", "% f"], [""]]
    (cell 1 1).perform "% f" g = .ok g' ∧ (column 1).perform "% f" g = .ok g' ∧
      g'.cellAt 1 1 = "% f" ∧ g'.cellAt 1 2 = g.cellAt 1 2 ∧ g'[3]? = some [""] ∧
      (cell 1 1).perform "% f" g' = .ok g' ∧
      (cell 1 1).perform "% h" g' = (cell 1 1).perform "% h" g := by
  intro g g'
  have hperform : (cell 1 1).perform "% f" g = .ok g' := rfl
  obtain ⟨htarget, hcells, hrows, -, hagain, hnext⟩ := write_frame hperform
  exact ⟨hperform, htarget, hcells 1 1, hcells 1 2, hrows 3 [""] rfl rfl, hagain,
    hnext "% h" rfl⟩

end CellWrite

end FormulaSheet.Grid
