import FormulaSheet.Proofs.Table.Gestures

/-!
Column formulas. A column formula that stands in every body row goes on doing so through any run of
edits that are not about its own cells (`column_formula_stays`). New rows take it over from the
first body row, a row that holds it is never deleted as an empty one, and edits of columns move the
column as a whole: where it stands afterwards is followed edit by edit (`Edit.follow`).
-/

namespace FormulaSheet.Grid

variable {g g' : Grid} {e : Edit} {row : List String} {value : String} {c : Nat}

/-- There are body rows, and all of them hold one column formula in a column of the header that is
not the first, which is for identifiers. -/
structure IsColumnWide (g : Grid) (c : Nat) (value : String) : Prop where
  formula : isColumnFormula value = true
  notFirst : 0 < c
  within : c < g.width
  body : 0 < g.bodySize
  cells : ∀ row ∈ g.bodyRows, row[c]? = some value

namespace Edit

/-- Edits that leave the cells of a column in the body alone. -/
def Spares (c : Nat) : Edit → Prop
  | write (.cell _ c') _ | write (.column c') _ | deleteColumn c' => c' ≠ c
  | write (.header c') name => c' = c → isColumnFormula name = false
  | _ => True

/-- Where a column stands after an edit. -/
def follow (g : Grid) (c : Nat) : Edit → Nat
  | insertColumn c' => if c' ≤ c then c + 1 else c
  | deleteColumn c' => if c' < c then c - 1 else c
  | deleteEmptyColumn c' =>
    if c' < c ∧ ∀ row ∈ g, row.getD c' "" = "" then c - 1 else c
  | _ => c

end Edit

/-! ## Rows -/

theorem ne_empty_of_isColumnFormula (h : isColumnFormula value = true) : value ≠ "" := by
  rintro rfl
  exact absurd h (by decide)

theorem getElem?_eq_some_of_getD (hne : value ≠ "") (h : row.getD c "" = value) :
    row[c]? = some value := by
  rw [List.getD_eq_getElem?_getD] at h
  cases hcell : row[c]? with
  | none =>
    rw [hcell] at h
    exact absurd h.symm hne
  | some cell =>
    rw [hcell] at h
    exact congrArg some h

theorem getElem?_insertIdx_min {c' : Nat} (h : row[c]? = some value) :
    (row.insertIdx (min c' row.length) "")[if c' ≤ c then c + 1 else c]? = some value := by
  obtain ⟨hlt, -⟩ := List.getElem?_eq_some_iff.mp h
  split
  · rw [List.getElem?_insertIdx, if_neg (by omega), if_neg (by omega), Nat.add_sub_cancel]
    exact h
  · rw [List.getElem?_insertIdx, if_pos (by omega)]
    exact h

theorem getElem?_eraseIdx_of_ne {c' : Nat} (hne : c' ≠ c) (h : row[c]? = some value) :
    (row.eraseIdx c')[if c' < c then c - 1 else c]? = some value := by
  split
  · rw [List.getElem?_eraseIdx, if_neg (by omega), Nat.sub_add_cancel (by omega)]
    exact h
  · rw [List.getElem?_eraseIdx, if_pos (by omega)]
    exact h

theorem getElem?_writeAt_of_ne {c' : Nat} (hne : c' ≠ c) (h : row[c]? = some value)
    (width : Nat) (other : String) : (writeAt width c' other row)[c]? = some value := by
  obtain ⟨hlt, -⟩ := List.getElem?_eq_some_iff.mp h
  rw [writeAt, List.getElem?_set_ne hne, padRow, List.getElem?_append_left hlt]
  exact h

/-! ## New rows and deleted ones -/

theorem HasRowMore.columns (h : HasRowMore row g g') : g'.columns = g.columns := by
  obtain ⟨top, bottom, rfl, rfl, htop, -⟩ := h
  obtain ⟨header, top, rfl⟩ := List.exists_cons_of_ne_nil htop
  rfl

theorem HasRowMore.bodyRows (h : HasRowMore row g g') : ∃ before behind,
    g.bodyRows = before ++ behind ∧ g'.bodyRows = before ++ row :: behind := by
  obtain ⟨top, bottom, rfl, rfl, htop, hbottom⟩ := h
  obtain ⟨header, top, rfl⟩ := List.exists_cons_of_ne_nil htop
  refine ⟨top, bottom.dropLast, List.dropLast_append_of_ne_nil hbottom, ?_⟩
  change (top ++ row :: bottom).dropLast = top ++ row :: bottom.dropLast
  rw [List.dropLast_append_of_ne_nil (List.cons_ne_nil _ _), List.dropLast_cons_of_ne_nil hbottom]

theorem IsColumnWide.ne_nil (h : g.IsColumnWide c value) : g ≠ [] := by
  rintro rfl
  cases h.within

theorem IsColumnWide.length (h : g.IsColumnWide c value) : 2 < g.length :=
  Nat.lt_of_sub_pos h.body

/-- A new row takes the formula over. -/
theorem IsColumnWide.emptyRow (h : g.IsColumnWide c value) (id : String) :
    (g.emptyRow id)[c]? = some value := by
  obtain ⟨first, rest, hrows⟩ := List.exists_cons_of_length_pos (l := g.bodyRows)
    (by rw [length_bodyRows]; exact h.body)
  have hfirst : (g.drop 1).headD [] = first :=
    (RowAddition.below_header g).1 first (by rw [hrows]; rfl)
  have htemplate : first[c]? = some value := h.cells first (by rw [hrows]; exact List.mem_cons_self)
  have hcell := RowAddition.inherits_emptyRow id g c (Nat.ne_of_gt h.notFirst)
  rw [hfirst, List.getD_eq_getElem?_getD (l := first), htemplate, Option.getD_some,
    if_pos h.formula] at hcell
  exact getElem?_eq_some_of_getD (ne_empty_of_isColumnFormula h.formula) hcell

theorem IsColumnWide.addRow (h : g.IsColumnWide c value) {a : RowAddition} {id : String}
    (hadd : a.perform id g = .ok g') : g'.IsColumnWide c value := by
  have hlength := h.length
  have haround : a.around g = g := by
    cases a with
    | atEnd => rw [RowAddition.around, if_neg (by omega)]
    | _ => rfl
  have hmore := RowAddition.hasRowMore_of_perform h.ne_nil hadd
  rw [haround] at hmore
  obtain ⟨before, behind, hrows, hrows'⟩ := hmore.bodyRows
  have hcells := h.cells
  rw [hrows] at hcells
  refine ⟨h.formula, h.notFirst, ?_, ?_, fun row hrow => ?_⟩
  · rw [width, show g'.headD [] = g'.columns from rfl, hmore.columns]
    exact h.within
  · rw [← length_bodyRows, hrows', List.length_append, List.length_cons]
    omega
  · rw [hrows', List.mem_append, List.mem_cons] at hrow
    rcases hrow with hbefore | rfl | hbehind
    · exact hcells row (List.mem_append_left _ hbefore)
    · exact h.emptyRow id
    · exact hcells row (List.mem_append_right _ hbehind)

/-- No row that holds a column formula is deleted as an empty one. -/
theorem IsColumnWide.deleteEmptyRow_ne (h : g.IsColumnWide c value) (i : Nat) :
    g.deleteEmptyRow i ≠ .ok (some g') := by
  intro hdelete
  obtain ⟨row, hempty, hmore, -⟩ := deleteEmptyRow_eq_some hdelete
  obtain ⟨before, behind, -, hrows⟩ := hmore.bodyRows
  have hcell := h.cells row (by rw [hrows]; simp)
  have hmem : value ∈ rowValues row := by
    refine List.mem_filter.mpr ⟨List.mem_of_getElem? hcell, ?_⟩
    simpa using ne_empty_of_isColumnFormula h.formula
  rw [hempty] at hmem
  cases hmem

/-! ## Writes elsewhere -/

theorem CellWrite.width_le_written (w : CellWrite) (other : String) (g : Grid) :
    g.width ≤ (w.written other g).width := by
  cases g with
  | nil => exact Nat.zero_le _
  | cons header rows =>
    rw [written, withRows, List.cons_append, List.mapIdx_cons]
    change header.length ≤ (if w.isFor (header :: rows) 0 then
      writeAt (w.reach (header :: rows)) w.index other header else header).length
    split
    · rw [length_writeAt]
      exact Nat.le_max_right _ _
    · exact Nat.le_refl _

/-- A write that spares a column does not go into its place of a body row. -/
theorem Edit.Spares.index_ne {w : CellWrite} {other : String} {i : Nat}
    (hspares : (Edit.write w other).Spares c) (hi : i < g.bodySize)
    (hfor : (w.target other).isFor g (i + 1) = true) : (w.target other).index ≠ c := by
  unfold bodySize at hi
  rw [CellWrite.index_target]
  cases w with
  | cell i c' => exact hspares
  | column c' => exact hspares
  | header c' =>
    by_cases hformula : isColumnFormula other = true
    · intro heq
      rw [hspares heq] at hformula
      cases hformula
    · rw [CellWrite.target, if_neg hformula] at hfor
      simp [CellWrite.isFor] at hfor
  | footer c' =>
    simp only [CellWrite.target, CellWrite.isFor, decide_eq_true_eq] at hfor
    omega

theorem IsColumnWide.write (h : g.IsColumnWide c value) {w : CellWrite} {other : String}
    (hspares : (Edit.write w other).Spares c) (hwrite : w.perform other g = .ok g') :
    g'.IsColumnWide c value := by
  obtain ⟨-, rfl⟩ := CellWrite.perform_eq_ok hwrite
  have hlength := h.length
  have hneeded : (w.target other).rowsNeeded ≤ g.length :=
    Nat.le_trans (CellWrite.rowsNeeded_le _) (Nat.le_of_lt hlength)
  have hsize : bodySize ((w.target other).written other g) = g.bodySize := by
    rw [bodySize, bodySize, CellWrite.length_written, Nat.max_eq_left hneeded]
  refine ⟨h.formula, h.notFirst, ?_, hsize ▸ h.body, fun row hrow => ?_⟩
  · exact Nat.lt_of_lt_of_le h.within (CellWrite.width_le_written _ _ _)
  · obtain ⟨i, hi, hrow⟩ := mem_bodyRows_iff.mp hrow
    rw [hsize] at hi
    rw [CellWrite.getElem?_written, CellWrite.withRows_eq_self hneeded,
      Option.map_eq_some_iff] at hrow
    obtain ⟨former, hformer, rfl⟩ := hrow
    have hcell := h.cells former (mem_bodyRows_iff.mpr ⟨i, hi, hformer⟩)
    split
    · rename_i hfor
      exact getElem?_writeAt_of_ne (hspares.index_ne hi hfor) hcell _ _
    · exact hcell

/-! ## Columns elsewhere -/

theorem bodyRows_map (f : List String → List String) (g : Grid) :
    bodyRows (g.map f) = g.bodyRows.map f := by
  rw [bodyRows, bodyRows, ← List.map_drop, ← List.map_dropLast]

/-- A change of every row in its place that takes the column from one place to another. -/
theorem IsColumnWide.map (h : g.IsColumnWide c value) {f : List String → List String} {c' : Nat}
    (hf : ∀ row : List String, ∀ cell, row[c]? = some cell → (f row)[c']? = some cell)
    (hpos : 0 < c') : IsColumnWide (g.map f) c' value := by
  refine ⟨h.formula, hpos, ?_, ?_, fun row hrow => ?_⟩
  · rw [width_map h.ne_nil]
    exact (List.getElem?_eq_some_iff.mp
      (hf g.columns _ (List.getElem?_eq_getElem (show c < g.columns.length from h.within)))).1
  · rw [bodySize, List.length_map]
    exact h.body
  · rw [bodyRows_map] at hrow
    obtain ⟨former, hformer, rfl⟩ := List.mem_map.mp hrow
    exact hf former value (h.cells former hformer)

theorem IsColumnWide.insertColumn (h : g.IsColumnWide c value) (c' : Nat) :
    IsColumnWide (g.insertColumn c') (if c' ≤ c then c + 1 else c) value := by
  rw [insertColumn_eq h.ne_nil]
  refine h.map (fun row cell hcell => getElem?_insertIdx_min hcell) ?_
  have hpos := h.notFirst
  split
  · exact Nat.succ_pos c
  · exact hpos

theorem IsColumnWide.deleteColumn (h : g.IsColumnWide c value) {c' : Nat} (hne : c' ≠ c)
    (hpos : 0 < if c' < c then c - 1 else c) :
    ((Edit.deleteColumn c').after g).IsColumnWide (if c' < c then c - 1 else c) value := by
  by_cases hwidth : c' < g.width
  · rw [Edit.after, Edit.perform, deleteColumn_eq hwidth]
    exact h.map (fun row cell hcell => getElem?_eraseIdx_of_ne hne hcell) hpos
  · have hrefused : (Edit.deleteColumn c').after g = g := by
      rw [Edit.after, Edit.perform, Grid.deleteColumn, checkColumn, if_neg hwidth]
      rfl
    have hbehind := h.within
    rw [hrefused, if_neg (by omega)]
    exact h

/-- A column without values is deleted like any other. -/
theorem after_deleteEmptyColumn (g : Grid) (c' : Nat) : (Edit.deleteEmptyColumn c').after g =
    if ∀ row ∈ g, row.getD c' "" = "" then (Edit.deleteColumn c').after g else g := by
  have hany : (g.any fun row => !(row.getD c' "").isEmpty) = true ↔
      ¬ ∀ row ∈ g, row.getD c' "" = "" := by
    simp
  rw [Edit.after, Edit.after, Edit.perform, Edit.perform, Grid.deleteEmptyColumn]
  by_cases hempty : ∀ row ∈ g, row.getD c' "" = ""
  · rw [if_pos hempty, if_neg fun h => hany.mp h hempty]
  · rw [if_neg hempty, if_pos (hany.mpr hempty)]

theorem IsColumnWide.ne_of_empty (h : g.IsColumnWide c value) {c' : Nat}
    (hempty : ∀ row ∈ g, row.getD c' "" = "") : c' ≠ c := by
  rintro rfl
  obtain ⟨i, hi⟩ : ∃ i, i < g.bodySize := ⟨0, h.body⟩
  have hlength := h.length
  unfold bodySize at hi
  have hrow : g[i + 1] ∈ g.bodyRows := mem_bodyRows_iff.mpr
    ⟨i, hi, List.getElem?_eq_getElem (by omega)⟩
  have hcell := hempty _ (List.getElem_mem (show i + 1 < g.length by omega))
  rw [List.getD_eq_getElem?_getD, h.cells _ hrow] at hcell
  exact ne_empty_of_isColumnFormula h.formula hcell

/-! ## Runs -/

namespace Edit

/-- An edit that spares the column and does not make it the first one leaves it as it is. -/
theorem after_isColumnWide (h : g.IsColumnWide c value) (hspares : e.Spares c)
    (hpos : 0 < e.follow g c) : (e.after g).IsColumnWide (e.follow g c) value := by
  cases e with
  | addRow id a =>
    exact after_induction (P := fun g' => g'.IsColumnWide c value) h
      fun g' hg' => h.addRow (exists_of_map_some hg')
  | deleteEmptyRow i =>
    exact after_induction (P := fun g' => g'.IsColumnWide c value) h
      fun g' hg' => absurd hg' (h.deleteEmptyRow_ne i)
  | insertColumn c' => exact h.insertColumn c'
  | deleteColumn c' => exact h.deleteColumn hspares hpos
  | deleteEmptyColumn c' =>
    rw [after_deleteEmptyColumn, follow] at *
    by_cases hempty : ∀ row ∈ g, row.getD c' "" = ""
    · simp only [and_iff_left hempty] at hpos ⊢
      rw [if_pos hempty]
      exact h.deleteColumn (h.ne_of_empty hempty) hpos
    · rw [if_neg hempty, if_neg fun hboth => hempty hboth.2]
      exact h
  | write w other =>
    exact after_induction (P := fun g' => g'.IsColumnWide c value) h
      fun g' hg' => h.write hspares (exists_of_map_some hg')

/-- One edit after the other. -/
def run (g : Grid) (es : List Edit) : Grid := es.foldl after g

/-- Where a column stands after a run. -/
def followRun (g : Grid) (c : Nat) : List Edit → Nat
  | [] => c
  | e :: es => followRun (e.after g) (e.follow g c) es

/-- Every edit of a run spares the column where it stands then, and none makes it the first one. -/
def SparesRun (g : Grid) (c : Nat) : List Edit → Prop
  | [] => True
  | e :: es => e.Spares c ∧ 0 < e.follow g c ∧ SparesRun (e.after g) (e.follow g c) es

/-- Through any run that spares it a column formula stays in every row of the body, where there is
always one, wherever the column moves. -/
theorem column_formula_stays {es : List Edit} (h : g.IsColumnWide c value)
    (hes : SparesRun g c es) : (run g es).IsColumnWide (followRun g c es) value := by
  induction es generalizing g c with
  | nil => exact h
  | cons e es ih =>
    obtain ⟨hspares, hpos, hes⟩ := hes
    exact ih (after_isColumnWide h hspares hpos) hes

/-- A column formula that a column is put before, with a new row, a write that reaches beyond the
header and a name for the column. -/
theorem column_formula_stays_moved :
    let g : Grid := [["id", "a", "b"], ["r", "x", "% f", "y"], [""]]
    let es : List Edit := [.insertColumn 1, .addRow "s" .atEnd, .write (.cell 1 4) "z",
      .write (.header 3) "n", .deleteEmptyRow 0]
    run g es = [["id", "", "a", "n"], ["r", "", "x", "% f", "y"], ["s", "", "", "% f", "z"],
        ["", ""]] ∧
      followRun g 2 es = 3 ∧ (run g es).IsColumnWide 3 "% f" := by
  intro g es
  have hg : g.IsColumnWide 2 "% f" := ⟨rfl, by decide, by decide, by decide, by decide⟩
  have hname : isColumnFormula "n" = false := rfl
  have hes : SparesRun g 2 es := by simp [SparesRun, Spares, follow, es, hname]
  have hfollow : followRun g 2 es = 3 := rfl
  have hstays := column_formula_stays hg hes
  rw [hfollow] at hstays
  exact ⟨rfl, hfollow, hstays⟩

end Edit

end FormulaSheet.Grid
