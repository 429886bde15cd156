import FormulaSheet.Proofs.Table.Alignment
import FormulaSheet.Proofs.Table.Writes

/-!
Edits of a grid, and the gestures among them: adding rows and columns, and deleting those that hold
no values. A gesture never loses a value, whether it succeeds, is refused or fails
(`gestures_lose_nothing`). What it inserts is put between things that stay in their order, and what
it deletes is looked through first, all of it.
-/

namespace FormulaSheet.Grid

/-! ## Edits -/

/-- Everything that can be done to a grid. -/
inductive Edit where
  | addRow (id : String) (a : RowAddition)
  | deleteEmptyRow (i : Nat)
  | insertColumn (c : Nat)
  | deleteColumn (c : Nat)
  | deleteEmptyColumn (c : Nat)
  | write (w : CellWrite) (value : String)

namespace Edit

/-- The grid that an edit makes; none where it is refused. -/
def perform (g : Grid) : Edit → Except Error (Option Grid)
  | addRow id a => (a.perform id g).map some
  | deleteEmptyRow i => g.deleteEmptyRow i
  | insertColumn c => .ok (some (g.insertColumn c))
  | deleteColumn c => (g.deleteColumn c).map some
  | deleteEmptyColumn c => g.deleteEmptyColumn c
  | write w value => (w.perform value g).map some

/-- The grid afterwards. It stays as it is where an edit is refused or fails. -/
def after (g : Grid) (e : Edit) : Grid :=
  match e.perform g with
  | .ok (some g') => g'
  | _ => g

/-- Edits that add something, and those that delete only what is empty. -/
def isGesture : Edit → Bool
  | addRow .. | deleteEmptyRow _ | insertColumn _ | deleteEmptyColumn _ => true
  | deleteColumn _ | write .. => false

def addsRow : Edit → Bool
  | addRow .. => true
  | _ => false

end Edit

/-! ## Values -/

/-- The cells of a row that are not empty. -/
def rowValues (row : List String) : List String := row.filter fun cell => !cell.isEmpty

/-- The cells of a grid that are not empty, row by row. -/
def values (g : Grid) : List String := g.flatMap rowValues

variable {g g' : Grid} {e : Edit} {row : List String} {i c k : Nat}

theorem exists_insertIdx {α : Type} {xs : List α} (h : k ≤ xs.length) (x : α) :
    ∃ before behind, xs = before ++ behind ∧ xs.insertIdx k x = before ++ x :: behind ∧
      before.length = k := by
  induction k generalizing xs with
  | zero => exact ⟨[], xs, rfl, rfl, rfl⟩
  | succ k ih =>
    cases xs with
    | nil => cases h
    | cons y xs =>
      obtain ⟨before, behind, hxs, hinsert, hlength⟩ := ih (Nat.le_of_succ_le_succ h)
      refine ⟨y :: before, behind, congrArg (y :: ·) hxs, ?_, congrArg Nat.succ hlength⟩
      rw [List.insertIdx_succ_cons, hinsert]
      rfl

theorem rowValues_replicate (n : Nat) : rowValues (List.replicate n "") = [] := by
  rw [rowValues, List.filter_replicate, if_neg (by decide)]

theorem rowValues_insertIdx (c : Nat) (row : List String) :
    rowValues (row.insertIdx (min c row.length) "") = rowValues row := by
  obtain ⟨before, behind, hrow, hinsert, -⟩ := exists_insertIdx (Nat.min_le_right c row.length) ""
  rw [hinsert]
  conv => rhs; rw [hrow]
  rw [rowValues, rowValues, List.filter_append, List.filter_append,
    List.filter_cons_of_neg (by decide)]

theorem rowValues_eraseIdx (h : row.getD c "" = "") :
    rowValues (row.eraseIdx c) = rowValues row := by
  by_cases hc : c < row.length
  · have hcell : row[c] = "" := by
      rw [List.getD_eq_getElem?_getD, List.getElem?_eq_getElem hc] at h
      exact h
    have hrow : row = row.take c ++ "" :: row.drop (c + 1) := by
      rw [← hcell, List.getElem_cons_drop, List.take_append_drop]
    conv => rhs; rw [hrow]
    rw [List.eraseIdx_eq_take_drop_succ, rowValues, rowValues, List.filter_append,
      List.filter_append, List.filter_cons_of_neg (by decide)]
  · rw [List.eraseIdx_of_length_le (Nat.le_of_not_lt hc)]

/-! ## Rows -/

/-- The second grid has one row more than the first one, between two others. -/
def HasRowMore (row : List String) (g g' : Grid) : Prop :=
  ∃ top bottom, g = top ++ bottom ∧ g' = top ++ row :: bottom ∧ top ≠ [] ∧ bottom ≠ []

theorem hasRowMore_insertIdx (hk : 0 < k) (hlt : k < g.length) (row : List String) :
    HasRowMore row g (g.insertIdx k row) := by
  obtain ⟨top, bottom, hg, hinsert, hlength⟩ := exists_insertIdx (Nat.le_of_lt hlt) row
  refine ⟨top, bottom, hg, hinsert, ?_, ?_⟩
  · rintro rfl
    exact absurd hlength (Nat.ne_of_lt hk)
  · rintro rfl
    rw [hg, List.append_nil] at hlt
    omega

theorem hasRowMore_eraseIdx (hk : 0 < k) (hlt : k + 1 < g.length) :
    HasRowMore g[k] (g.eraseIdx k) g := by
  refine ⟨g.take k, g.drop (k + 1), List.eraseIdx_eq_take_drop_succ g k, ?_, ?_, ?_⟩
  · rw [List.getElem_cons_drop, List.take_append_drop]
  · rw [← List.length_pos_iff, List.length_take]
    omega
  · rw [← List.length_pos_iff, List.length_drop]
    omega

theorem HasRowMore.values (h : HasRowMore row g g') :
    g.values.Sublist g'.values ∧ (rowValues row = [] → g.values = g'.values) := by
  obtain ⟨top, bottom, rfl, rfl, -, -⟩ := h
  simp only [Grid.values, List.flatMap_append, List.flatMap_cons]
  refine ⟨(List.Sublist.refl _).append (List.sublist_append_right _ _), fun hrow => ?_⟩
  rw [hrow, List.nil_append]

namespace RowAddition

variable {a : RowAddition} {id : String}

/-- A row is added behind the header and before the footer. -/
theorem place_between (hg : g ≠ []) (h : a.perform id g = .ok g') :
    0 < a.place g ∧ a.place g < (a.around g).length := by
  have hlength := List.length_pos_iff.mpr hg
  cases a with
  | above i =>
    obtain ⟨_, hi, -⟩ := exists_of_bind_eq_ok h
    exact ⟨Nat.succ_pos i, Nat.lt_of_succ_lt (lt_length_of_checkBodyIndex hi)⟩
  | below i =>
    obtain ⟨_, hi, -⟩ := exists_of_bind_eq_ok h
    exact ⟨Nat.succ_pos (i + 1), lt_length_of_checkBodyIndex hi⟩
  | atEnd =>
    rw [place, around]
    split
    · rw [List.length_append, List.length_singleton]
      omega
    · omega

theorem hasRowMore_of_perform (hg : g ≠ []) (h : a.perform id g = .ok g') :
    HasRowMore (g.emptyRow id) (a.around g) g' := by
  obtain ⟨hpos, hlt⟩ := place_between hg h
  obtain ⟨-, rfl⟩ := perform_eq_ok h
  exact hasRowMore_insertIdx hpos hlt _

/-- The footer that is added where there was none holds no values. -/
theorem values_around (a : RowAddition) (g : Grid) : (a.around g).values = g.values := by
  cases a with
  | atEnd =>
    rw [around]
    split
    · rw [values, values, List.flatMap_append, List.flatMap_singleton, rowValues_replicate,
        List.append_nil]
    · rfl
  | _ => rfl

/-- Adding a row keeps all values. -/
theorem values_of_perform (h : a.perform id g = .ok g') : g.values.Sublist g'.values := by
  by_cases hg : g = []
  · rw [hg]
    exact List.nil_sublist _
  · rw [← values_around a g]
    exact (hasRowMore_of_perform hg h).values.1

end RowAddition

/-! ## Deletions and new columns -/

theorem deleteEmptyRow_eq_some (h : g.deleteEmptyRow i = .ok (some g')) :
    ∃ row, rowValues row = [] ∧ HasRowMore row g' g ∧ 2 < g'.length := by
  obtain ⟨_, hi, h⟩ := exists_of_bind_eq_ok h
  have hlt := lt_length_of_checkBodyIndex hi
  split at h
  · cases h
  · rename_i hrows
    split at h
    · cases h
    · rename_i hempty
      cases h
      refine ⟨_, ?_, hasRowMore_eraseIdx (Nat.succ_pos i) hlt, ?_⟩
      · rw [List.getD_eq_getElem?_getD, List.getElem?_eq_getElem (Nat.lt_of_succ_lt hlt)] at hempty
        rw [rowValues, List.filter_eq_nil_iff]
        simpa using hempty
      · rw [List.length_eraseIdx_of_lt (Nat.lt_of_succ_lt hlt)]
        omega

theorem deleteEmptyColumn_eq_some (h : g.deleteEmptyColumn c = .ok (some g')) :
    g' = g.map (·.eraseIdx c) ∧ ∀ row ∈ g, row.getD c "" = "" := by
  have hdelete := deleteColumn_of_deleteEmptyColumn h
  obtain ⟨_, -, ⟨⟩⟩ := exists_of_bind_eq_ok hdelete
  refine ⟨rfl, fun row hrow => ?_⟩
  unfold deleteEmptyColumn at h
  split at h
  · cases h
  · rename_i hempty
    simp only [List.any_eq_true, not_exists, not_and, Bool.not_eq_true,
      Bool.not_eq_false'] at hempty
    exact String.isEmpty_iff.mp (hempty row hrow)

theorem values_of_map (hg : g.map rowValues = g'.map rowValues) :
    g.values = g'.values := by
  rw [values, values, List.flatMap_def, List.flatMap_def, hg]

theorem rowValues_insertColumn (hg : g ≠ []) (c : Nat) :
    (g.insertColumn c).map rowValues = g.map rowValues := by
  rw [insertColumn_eq hg, List.map_map]
  exact List.map_congr_left fun row _ => rowValues_insertIdx c row

theorem rowValues_deleteEmptyColumn (h : g.deleteEmptyColumn c = .ok (some g')) :
    g'.map rowValues = g.map rowValues := by
  obtain ⟨rfl, hempty⟩ := deleteEmptyColumn_eq_some h
  rw [List.map_map]
  exact List.map_congr_left fun row hrow => rowValues_eraseIdx (hempty row hrow)

theorem values_insertColumn (g : Grid) (c : Nat) : (g.insertColumn c).values = g.values := by
  by_cases hg : g = []
  · rw [hg]
    simp [insertColumn, values, rowValues]
  · exact values_of_map (rowValues_insertColumn hg c)

/-! ## Gestures -/

namespace Edit

/-- What a successful gesture leaves of the rows. One row is added, or one without values deleted,
between two others; where there is no footer an empty one is added too. An edit of columns keeps
every row in its place and its values in their order. -/
def KeepsRows (g g' : Grid) : Edit → Prop
  | addRow id a => g ≠ [] → HasRowMore (g.emptyRow id) (a.around g) g'
  | deleteEmptyRow _ => ∃ row, rowValues row = [] ∧ HasRowMore row g' g
  | _ => g ≠ [] → g'.map rowValues = g.map rowValues

theorem after_of_perform (h : e.perform g = .ok (some g')) : e.after g = g' := by
  rw [after, h]

theorem after_of_not_perform (h : ∀ g', e.perform g ≠ .ok (some g')) : e.after g = g := by
  rw [after]
  split
  · exact absurd ‹_› (h _)
  · rfl

/-- What holds before an edit and after its success holds after it in any case. -/
theorem after_induction {P : Grid → Prop} (hg : P g)
    (h : ∀ g', e.perform g = .ok (some g') → P g') : P (e.after g) := by
  rw [after]
  split
  · exact h _ ‹_›
  · exact hg

theorem exists_of_map_some {x : Except Error Grid} (h : x.map some = .ok (some g')) :
    x = .ok g' := by
  cases x with
  | error e => cases h
  | ok g => cases h; rfl

/-- What a gesture that succeeds does to values and rows. -/
theorem keeps_of_perform (he : e.isGesture = true) (h : e.perform g = .ok (some g')) :
    g.values.Sublist g'.values ∧ (e.addsRow = false → g'.values = g.values) ∧
      e.KeepsRows g g' := by
  cases e with
  | addRow id a =>
    have hrow := exists_of_map_some h
    exact ⟨RowAddition.values_of_perform hrow, fun hadds => (nomatch hadds),
      fun hg => RowAddition.hasRowMore_of_perform hg hrow⟩
  | deleteEmptyRow i =>
    obtain ⟨row, hempty, hmore, -⟩ := deleteEmptyRow_eq_some h
    have hvalues := hmore.values.2 hempty
    exact ⟨hvalues.symm ▸ .refl _, fun _ => hvalues, row, hempty, hmore⟩
  | insertColumn c =>
    cases h
    have hvalues := values_insertColumn g c
    exact ⟨hvalues.symm ▸ .refl _, fun _ => hvalues,
      fun hg => rowValues_insertColumn hg c⟩
  | deleteEmptyColumn c =>
    have hrows := rowValues_deleteEmptyColumn h
    have hvalues := values_of_map hrows
    exact ⟨hvalues.symm ▸ .refl _, fun _ => hvalues, fun _ => hrows⟩
  | deleteColumn c => cases he
  | write w value => cases he

/-- A gesture keeps all values in their order, and unless it adds a row there are no others
afterwards. If it is refused or fails the grid stays as it is; if it succeeds all rows but the one
that is added or deleted are there as before. -/
theorem gestures_lose_nothing (he : e.isGesture = true) (g : Grid) :
    g.values.Sublist (e.after g).values ∧
      (e.addsRow = false ∨ (∀ g', e.perform g ≠ .ok (some g')) →
        (e.after g).values = g.values) ∧
      ((∀ g', e.perform g ≠ .ok (some g')) → e.after g = g) ∧
      (∀ g', e.perform g = .ok (some g') → e.after g = g' ∧ e.KeepsRows g g') := by
  by_cases hdone : ∃ g', e.perform g = .ok (some g')
  · obtain ⟨g', hg'⟩ := hdone
    obtain ⟨hsublist, hvalues, hrows⟩ := keeps_of_perform he hg'
    have hnot : ¬ ∀ g', e.perform g ≠ .ok (some g') := fun hnone => hnone g' hg'
    rw [after_of_perform hg']
    refine ⟨hsublist, fun h => hvalues (h.resolve_right hnot), fun hnone => absurd hnone hnot,
      fun g'' hg'' => ?_⟩
    rw [hg'] at hg''
    cases hg''
    exact ⟨rfl, hrows⟩
  · have hnone : ∀ g', e.perform g ≠ .ok (some g') := fun g' hg' => hdone ⟨g', hg'⟩
    rw [after_of_not_perform hnone]
    exact ⟨List.Sublist.refl _, fun _ => rfl, fun _ => rfl, fun g' hg' => absurd hg' (hnone g')⟩

/-- An empty row goes, a row with a value beyond the header is refused, and a column without values
goes from rows of several lengths. -/
theorem gestures_lose_nothing_ragged :
    let g : Grid := [["id", "", "b"], ["", ""], ["", "", "", "x"], [""]]
    (deleteEmptyRow 0).after g = [["id", "", "b"], ["", "", "", "x"], [""]] ∧
      (deleteEmptyRow 1).after g = g ∧
      (deleteEmptyColumn 1).after g = [["id", "b"], [""], ["", "", "x"], [""]] ∧
      ((deleteEmptyRow 0).after g).values = g.values ∧
      ((deleteEmptyColumn 1).after g).values = g.values := by
  intro g
  have hrow := gestures_lose_nothing (e := deleteEmptyRow 0) rfl g
  have hrefused := gestures_lose_nothing (e := deleteEmptyRow 1) rfl g
  have hcolumn := gestures_lose_nothing (e := deleteEmptyColumn 1) rfl g
  have hnone : ∀ g', (deleteEmptyRow 1).perform g ≠ .ok (some g') := fun _ h => nomatch h
  exact ⟨(hrow.2.2.2 _ rfl).1, hrefused.2.2.1 hnone, (hcolumn.2.2.2 _ rfl).1, hrow.2.1 (.inl rfl),
    hcolumn.2.1 (.inl rfl)⟩

end Edit

end FormulaSheet.Grid
