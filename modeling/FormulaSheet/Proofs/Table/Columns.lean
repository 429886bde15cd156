import FormulaSheet.Table.Edit

/-!
What edits of a grid do to its columns. Edits of rows and of cells below the header leave the
header alone, and the edits of columns change it in one place. So a table that has columns keeps
some, unless its only column is deleted.
-/

namespace FormulaSheet.Grid

variable {g g' : Grid} {c i : Nat} {id value : String}

theorem exists_of_bind_eq_ok {α β : Type} {x : Except Error α} {f : α → Except Error β} {b : β}
    (h : (x >>= f) = .ok b) : ∃ a, x = .ok a ∧ f a = .ok b := by
  cases x with
  | error e => cases h
  | ok a => exact ⟨a, rfl, h⟩

theorem lt_width_of_checkColumn (h : g.checkColumn c = .ok ()) : c < g.width := by
  unfold checkColumn at h
  split at h
  · assumption
  · cases h

/-! ## The header stays -/

theorem columns_insertIdx_succ (hg : g ≠ []) (i : Nat) (row : List String) :
    columns (g.insertIdx (i + 1) row) = g.columns := by
  cases g with
  | nil => exact absurd rfl hg
  | cons header rows => rfl

theorem columns_modify_succ (g : Grid) (i : Nat) (f : List String → List String) :
    columns (g.modify (i + 1) f) = g.columns := by
  cases g <;> rfl

theorem columns_insertRowAbove (hg : g ≠ []) (h : g.insertRowAbove id i = .ok g') :
    g'.columns = g.columns := by
  obtain ⟨-, -, ⟨⟩⟩ := exists_of_bind_eq_ok h
  exact columns_insertIdx_succ hg i _

theorem columns_insertRowBelow (hg : g ≠ []) (h : g.insertRowBelow id i = .ok g') :
    g'.columns = g.columns := by
  obtain ⟨-, -, ⟨⟩⟩ := exists_of_bind_eq_ok h
  exact columns_insertIdx_succ hg (i + 1) _

theorem columns_appendRow (hg : g ≠ []) (id : String) : (g.appendRow id).columns = g.columns := by
  cases g with
  | nil => exact absurd rfl hg
  | cons header rows =>
    unfold appendRow
    split
    · rfl
    · rename_i hlen
      obtain ⟨n, hn⟩ : ∃ n, (header :: rows).length - 1 = n + 1 := by
        simp only [List.length_cons] at hlen ⊢
        exact ⟨rows.length - 1, by omega⟩
      rw [hn]
      exact columns_insertIdx_succ hg n _

theorem columns_deleteEmptyRow (h : g.deleteEmptyRow i = .ok (some g')) :
    g'.columns = g.columns := by
  obtain ⟨-, -, h⟩ := exists_of_bind_eq_ok h
  split at h
  · cases h
  · split at h
    · cases h
    · cases h
      cases g <;> rfl

theorem columns_mapBody (g : Grid) (f : List String → List String) :
    (g.mapBody f).columns = g.columns := by
  cases g <;> rfl

theorem columns_fillColumn (h : g.fillColumn c value = .ok g') : g'.columns = g.columns := by
  obtain ⟨-, -, ⟨⟩⟩ := exists_of_bind_eq_ok h
  exact columns_mapBody g _

theorem columns_setCell (h : g.setCell i c value = .ok g') : g'.columns = g.columns := by
  obtain ⟨-, -, h⟩ := exists_of_bind_eq_ok h
  split at h
  · exact columns_fillColumn h
  · cases h
    exact columns_modify_succ g i _

theorem columns_setFooterCell (hg : g ≠ []) (c : Nat) (value : String) :
    (g.setFooterCell c value).columns = g.columns := by
  cases g with
  | nil => exact absurd rfl hg
  | cons header rows =>
    cases rows with
    | nil => rfl
    | cons row rows => exact columns_modify_succ (header :: row :: rows) rows.length _

/-! ## The header changes -/

theorem length_writeAt (width c : Nat) (value : String) (row : List String) :
    (writeAt width c value row).length = max width row.length := by
  simp only [writeAt, padRow, List.length_set, List.length_append, List.length_replicate]
  omega

theorem columns_renameColumn (h : g.renameColumn c value = .ok g') :
    g'.columns =
      if isColumnFormula value then g.columns else writeAt (c + 1) c value g.columns := by
  unfold renameColumn at h
  split at h
  · rename_i hf
    rw [if_pos hf]
    exact columns_fillColumn h
  · rename_i hf
    rw [if_neg hf]
    cases h
    rfl

theorem columns_insertColumn (hg : g ≠ []) (c : Nat) :
    (g.insertColumn c).columns = g.columns.insertIdx (min c g.width) "" := by
  cases g with
  | nil => exact absurd rfl hg
  | cons header rows => rfl

theorem columns_deleteColumn (h : g.deleteColumn c = .ok g') :
    c < g.width ∧ g'.columns = g.columns.eraseIdx c := by
  obtain ⟨_, hc, ⟨⟩⟩ := exists_of_bind_eq_ok h
  constructor
  · exact lt_width_of_checkColumn hc
  · cases g <;> rfl

theorem deleteColumn_of_deleteEmptyColumn (h : g.deleteEmptyColumn c = .ok (some g')) :
    g.deleteColumn c = .ok g' := by
  unfold deleteEmptyColumn at h
  split at h
  · cases h
  · cases hd : g.deleteColumn c with
    | error e => simp [hd, Except.map] at h
    | ok after =>
      rw [hd] at h
      cases h
      rfl

end FormulaSheet.Grid
