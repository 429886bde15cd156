import FormulaSheet.Proofs.Table.Columns

/-!
The frame of a table: its header, its footer and that there is a row between them. Edits of body
rows stay between header and footer and never take the last row, and edits of columns change every
row in its place.
-/

namespace FormulaSheet.Grid

/-- The grid has this header and this footer, and a row between them. -/
structure IsFramed (g : Grid) (header footer : List String) : Prop where
  header : g[0]? = some header
  footer : g[g.length - 1]? = some footer
  rows : 3 ≤ g.length

theorem exists_isFramed {g : Grid} (h : 3 ≤ g.length) :
    ∃ header footer, g.IsFramed header footer :=
  ⟨g[0], g[g.length - 1], List.getElem?_eq_getElem (by omega),
    List.getElem?_eq_getElem (by omega), h⟩

section

variable {g g' : Grid} {header footer : List String} {i c : Nat} {id value : String}

theorem IsFramed.ne_nil (hg : g.IsFramed header footer) : g ≠ [] := by
  rintro rfl
  cases hg.header

theorem lt_bodySize_of_checkBodyIndex (h : g.checkBodyIndex i = .ok ()) : i < g.bodySize := by
  unfold checkBodyIndex at h
  split at h
  · assumption
  · cases h

theorem lt_length_of_checkBodyIndex (h : g.checkBodyIndex i = .ok ()) : i + 2 < g.length := by
  have hlt := lt_bodySize_of_checkBodyIndex h
  unfold bodySize at hlt
  omega

/-! ## Rows between header and footer -/

theorem length_bodyRows (g : Grid) : g.bodyRows.length = g.bodySize := by
  simp only [bodyRows, bodySize, List.length_dropLast, List.length_drop]
  omega

theorem length_body (g : Grid) : g.body.length = g.bodySize := by
  rw [body, List.length_map, length_bodyRows]

theorem getElem?_bodyRows (g : Grid) (i : Nat) :
    g.bodyRows[i]? = if i < g.bodySize then g[i + 1]? else none := by
  have hsize : (g.drop 1).length - 1 = g.bodySize := by
    rw [List.length_drop, Nat.sub_sub]
    rfl
  rw [bodyRows, List.getElem?_dropLast, hsize, List.getElem?_drop, Nat.add_comm 1 i]

theorem mem_bodyRows_iff {row : List String} :
    row ∈ g.bodyRows ↔ ∃ i < g.bodySize, g[i + 1]? = some row := by
  simp only [List.mem_iff_getElem?, getElem?_bodyRows, Option.ite_none_right_eq_some]

theorem IsFramed.insertIdx (hg : g.IsFramed header footer) (hi : i ≤ g.bodySize)
    (row : List String) : IsFramed (g.insertIdx (i + 1) row) header footer := by
  have hrows := hg.rows
  unfold bodySize at hi
  have hlength : (g.insertIdx (i + 1) row).length = g.length + 1 := by
    rw [List.length_insertIdx, if_pos (by omega)]
  constructor
  · rw [List.getElem?_insertIdx, if_pos (by omega)]
    exact hg.header
  · rw [hlength, List.getElem?_insertIdx, if_neg (by omega), if_neg (by omega)]
    exact hg.footer
  · omega

theorem IsFramed.eraseIdx (hg : g.IsFramed header footer) (hi : i < g.bodySize)
    (hrows : 3 < g.length) : IsFramed (g.eraseIdx (i + 1)) header footer := by
  unfold bodySize at hi
  have hlength : (g.eraseIdx (i + 1)).length = g.length - 1 := List.length_eraseIdx_of_lt (by omega)
  constructor
  · rw [List.getElem?_eraseIdx, if_pos (by omega)]
    exact hg.header
  · have hlast : g.length - 1 - 1 + 1 = g.length - 1 := by omega
    rw [hlength, List.getElem?_eraseIdx, if_neg (by omega), hlast]
    exact hg.footer
  · omega

theorem IsFramed.modify (hg : g.IsFramed header footer) (hi : i < g.bodySize)
    (f : List String → List String) : IsFramed (g.modify (i + 1) f) header footer := by
  unfold bodySize at hi
  constructor
  · rw [List.getElem?_modify, hg.header]
    rfl
  · have hother : i + 1 ≠ g.length - 1 := by omega
    rw [List.length_modify, List.getElem?_modify, hg.footer]
    simp [hother]
  · rw [List.length_modify]
    exact hg.rows

theorem IsFramed.mapBody (hg : g.IsFramed header footer) (f : List String → List String) :
    (g.mapBody f).IsFramed header footer := by
  obtain ⟨hheader, hfooter, hrows⟩ := hg
  cases g with
  | nil => cases hheader
  | cons first rows =>
    simp only [List.length_cons] at hfooter hrows
    have hlength : (Grid.mapBody f (first :: rows)).length = rows.length + 1 := by
      simp only [Grid.mapBody, List.length_cons, List.length_append, List.length_map,
        List.length_dropLast, List.length_drop]
      omega
    refine ⟨hheader, ?_, by omega⟩
    have hlast : rows.length + 1 - 1 = rows.length - 1 + 1 := by omega
    rw [hlast, List.getElem?_cons_succ] at hfooter
    rw [hlength, hlast, Grid.mapBody, List.getElem?_cons_succ, List.getElem?_append,
      List.length_map, List.length_dropLast, if_neg (by omega), List.getElem?_drop]
    simpa using hfooter

theorem IsFramed.insertRowAbove (hg : g.IsFramed header footer)
    (h : g.insertRowAbove id i = .ok g') : g'.IsFramed header footer := by
  obtain ⟨_, hi, ⟨⟩⟩ := exists_of_bind_eq_ok h
  exact hg.insertIdx (Nat.le_of_lt (lt_bodySize_of_checkBodyIndex hi)) _

theorem IsFramed.insertRowBelow (hg : g.IsFramed header footer)
    (h : g.insertRowBelow id i = .ok g') : g'.IsFramed header footer := by
  obtain ⟨_, hi, ⟨⟩⟩ := exists_of_bind_eq_ok h
  exact hg.insertIdx (Nat.succ_le_of_lt (lt_bodySize_of_checkBodyIndex hi)) _

theorem IsFramed.appendRow (hg : g.IsFramed header footer) (id : String) :
    (g.appendRow id).IsFramed header footer := by
  have hrows := hg.rows
  have hplace : g.length - 1 = g.bodySize + 1 := by
    unfold bodySize
    omega
  unfold Grid.appendRow
  rw [if_neg (by omega), hplace]
  exact hg.insertIdx (Nat.le_refl _) _

theorem IsFramed.deleteEmptyRow (hg : g.IsFramed header footer)
    (h : g.deleteEmptyRow i = .ok (some g')) : g'.IsFramed header footer := by
  obtain ⟨_, hi, h⟩ := exists_of_bind_eq_ok h
  split at h
  · cases h
  · split at h
    · cases h
    · rename_i hrows _
      cases h
      exact hg.eraseIdx (lt_bodySize_of_checkBodyIndex hi) (by omega)

theorem IsFramed.fillColumn (hg : g.IsFramed header footer) (h : g.fillColumn c value = .ok g') :
    g'.IsFramed header footer := by
  obtain ⟨-, -, ⟨⟩⟩ := exists_of_bind_eq_ok h
  exact hg.mapBody _

theorem IsFramed.setCell (hg : g.IsFramed header footer) (h : g.setCell i c value = .ok g') :
    g'.IsFramed header footer := by
  obtain ⟨_, hi, h⟩ := exists_of_bind_eq_ok h
  split at h
  · exact hg.fillColumn h
  · cases h
    exact hg.modify (lt_bodySize_of_checkBodyIndex hi) _

/-! ## Header and footer -/

theorem setFooterCell_eq (hrows : 2 ≤ g.length) (c : Nat) (value : String) :
    g.setFooterCell c value =
      g.modify (g.length - 1) (writeAt (max g.width (c + 1)) c value) := by
  match g, hrows with
  | _ :: _ :: _, _ => rfl

/-- A footer cell changes the footer alone. -/
theorem IsFramed.setFooterCell (hg : g.IsFramed header footer) (c : Nat) (value : String) :
    ∃ footer', (g.setFooterCell c value).IsFramed header footer' := by
  have hrows := hg.rows
  have hother : g.length - 1 ≠ 0 := by omega
  rw [setFooterCell_eq (by omega)]
  refine ⟨writeAt (max g.width (c + 1)) c value footer, ?_, ?_, ?_⟩
  · rw [List.getElem?_modify, hg.header]
    simp [hother]
  · rw [List.length_modify, List.getElem?_modify, hg.footer]
    simp
  · rw [List.length_modify]
    exact hrows

/-- A new name changes the header alone; a column formula changes neither. -/
theorem IsFramed.renameColumn (hg : g.IsFramed header footer)
    (h : g.renameColumn c value = .ok g') : ∃ header', g'.IsFramed header' footer := by
  have hrows := hg.rows
  unfold Grid.renameColumn at h
  split at h
  · exact ⟨header, hg.fillColumn h⟩
  · cases h
    have hlength : (writeAt (c + 1) c value g.columns :: g.drop 1).length = g.length := by
      rw [List.length_cons, List.length_drop]
      omega
    refine ⟨writeAt (c + 1) c value g.columns, rfl, ?_, by omega⟩
    have hlast : g.length - 1 = g.length - 2 + 1 := by omega
    have hfooter := hg.footer
    rw [hlast] at hfooter
    rw [hlength, hlast, List.getElem?_cons_succ, List.getElem?_drop, Nat.add_comm]
    exact hfooter

/-- A change of every row in its place. -/
theorem IsFramed.map (hg : g.IsFramed header footer) (f : List String → List String) :
    IsFramed (g.map f) (f header) (f footer) := by
  constructor
  · rw [List.getElem?_map, hg.header, Option.map_some]
  · rw [List.length_map, List.getElem?_map, hg.footer, Option.map_some]
  · rw [List.length_map]
    exact hg.rows

theorem IsFramed.insertColumn (hg : g.IsFramed header footer) (c : Nat) :
    ∃ header' footer', (g.insertColumn c).IsFramed header' footer' := by
  have hrows : (if g.isEmpty then [[], []] else g) = g :=
    if_neg (by simpa using hg.ne_nil)
  unfold Grid.insertColumn
  rw [hrows]
  exact ⟨_, _, hg.map _⟩

theorem IsFramed.deleteColumn (hg : g.IsFramed header footer)
    (h : g.deleteColumn c = .ok g') : ∃ header' footer', g'.IsFramed header' footer' := by
  obtain ⟨-, -, ⟨⟩⟩ := exists_of_bind_eq_ok h
  exact ⟨_, _, hg.map _⟩

end

end FormulaSheet.Grid
