import FormulaSheet.Proofs.Table.Frame

/-!
New rows. A row is added above or below a body row, or behind the last one. Whichever way, it takes
over the column formulas of one row of the table, and all else but its identifier is empty
(`new_row_inherits`). That row is the first body row; in a table without body rows it is the footer,
if there is one, and so the formulas of the footer come to stand in a body row
(`footer_formula_copied`).
-/

namespace FormulaSheet

theorem getD_padRow (width : Nat) (row : List String) (j : Nat) :
    (padRow width row).getD j "" = row.getD j "" := by
  simp only [padRow, List.getD_eq_getElem?_getD, List.getElem?_append, List.getElem?_replicate]
  split
  · rfl
  · rename_i hj
    rw [List.getElem?_eq_none (Nat.le_of_not_lt hj)]
    split <;> rfl

namespace Grid

/-- Where a row is added. -/
inductive RowAddition where
  | above (i : Nat)
  | below (i : Nat)
  | atEnd

namespace RowAddition

variable {g g' : Grid} {a : RowAddition} {id : String} {row template : List String}

/-- Adds a row with an identifier. -/
def perform (id : String) (g : Grid) : RowAddition → Except Error Grid
  | above i => g.insertRowAbove id i
  | below i => g.insertRowBelow id i
  | atEnd => .ok (g.appendRow id)

/-- The place of the new row in the grid. -/
def place (g : Grid) : RowAddition → Nat
  | above i => i + 1
  | below i => i + 2
  | atEnd => if g.length ≤ 1 then g.length else g.length - 1

/-- The rows around the new one: those of the grid, and a footer where there was none. -/
def around (g : Grid) : RowAddition → Grid
  | atEnd => if g.length ≤ 1 then g ++ [List.replicate g.width ""] else g
  | _ => g

/-- A row holds the column formulas of another one, and nothing else behind its identifier. -/
def Inherits (template row : List String) : Prop := ∀ j ≠ 0,
  row.getD j "" = if isColumnFormula (template.getD j "") then template.getD j "" else ""

theorem perform_eq_ok (h : a.perform id g = .ok g') :
    a.place g ≤ (a.around g).length ∧
      g' = (a.around g).insertIdx (a.place g) (g.emptyRow id) := by
  cases a with
  | above i =>
    obtain ⟨_, hi, ⟨⟩⟩ := exists_of_bind_eq_ok h
    have hlt := lt_length_of_checkBodyIndex hi
    exact ⟨show i + 1 ≤ g.length by omega, rfl⟩
  | below i =>
    obtain ⟨_, hi, ⟨⟩⟩ := exists_of_bind_eq_ok h
    exact ⟨Nat.le_of_lt (lt_length_of_checkBodyIndex hi), rfl⟩
  | atEnd =>
    cases h
    match g with
    | [] => exact ⟨Nat.zero_le _, rfl⟩
    | [_] => exact ⟨Nat.le_succ 1, rfl⟩
    | _ :: _ :: _ => exact ⟨Nat.sub_le _ _, rfl⟩

/-- What is in a new row stands below the header. -/
theorem inherits_emptyRow (id : String) (g : Grid) :
    Inherits ((g.drop 1).headD []) (g.emptyRow id) := by
  intro j hj
  rw [← getD_padRow g.width ((g.drop 1).headD [])]
  unfold emptyRow
  simp only [List.getD_eq_getElem?_getD, List.getElem?_map, List.getElem?_zipIdx, Option.map_map]
  cases (padRow g.width ((g.drop 1).headD []))[j]? with
  | none => rfl
  | some cell => simp [hj]

theorem Inherits.padRow (h : Inherits template row) (width : Nat) :
    Inherits (padRow width template) row := by
  intro j hj
  rw [getD_padRow]
  exact h j hj

/-- Below the header stands the first body row, and the footer where there is none. -/
theorem below_header (g : Grid) :
    (∀ first ∈ g.bodyRows.head?, (g.drop 1).headD [] = first) ∧
      (g.bodyRows = [] → ∃ width, g.footer = FormulaSheet.padRow width ((g.drop 1).headD [])) := by
  match g with
  | [] => exact ⟨fun _ h => (nomatch h), fun _ => ⟨0, rfl⟩⟩
  | [_] => exact ⟨fun _ h => (nomatch h), fun _ => ⟨0, rfl⟩⟩
  | [header, _] => exact ⟨fun _ h => (nomatch h), fun _ => ⟨header.length, rfl⟩⟩
  | _ :: first :: _ :: _ =>
    refine ⟨fun _ h => ?_, fun h => (nomatch h)⟩
    cases h
    rfl

/-- Above and below a body row there is at least that one. -/
theorem atEnd_of_bodyRows_eq_nil (h : a.perform id g = .ok g') (hbody : g.bodyRows = []) :
    a = atEnd := by
  have hsize : g.bodySize = 0 := by
    rw [← length_body, body, hbody]
    rfl
  cases a with
  | above i =>
    obtain ⟨_, hi, -⟩ := exists_of_bind_eq_ok h
    exact absurd (lt_bodySize_of_checkBodyIndex hi) (by omega)
  | below i =>
    obtain ⟨_, hi, -⟩ := exists_of_bind_eq_ok h
    exact absurd (lt_bodySize_of_checkBodyIndex hi) (by omega)
  | atEnd => rfl

/-- However a row is added, it stands between rows that are as before, and behind its identifier it
holds the column formulas of the first body row and nothing else. Only at the end of a table
without body rows it holds those of the footer, and none where there is no footer either. -/
theorem new_row_inherits (h : a.perform id g = .ok g') : ∃ row,
    g' = (a.around g).insertIdx (a.place g) row ∧ g'[a.place g]? = some row ∧
      (∀ first ∈ g.bodyRows.head?, Inherits first row) ∧
      (g.bodyRows = [] → a = atEnd ∧ Inherits g.footer row) := by
  have hatEnd := atEnd_of_bodyRows_eq_nil h
  obtain ⟨hplace, rfl⟩ := perform_eq_ok h
  obtain ⟨hbody, hfooter⟩ := below_header g
  refine ⟨g.emptyRow id, rfl, ?_, fun first hfirst => ?_, fun hnone => ⟨hatEnd hnone, ?_⟩⟩
  · rw [List.getElem?_insertIdx_self, if_pos hplace]
  · rw [← hbody first hfirst]
    exact inherits_emptyRow id g
  · obtain ⟨width, hwidth⟩ := hfooter hnone
    rw [hwidth]
    exact (inherits_emptyRow id g).padRow width

/-- Rows of several lengths; the first body row has a formula beyond the header. -/
theorem new_row_inherits_ragged :
    let g : Grid := [["id", "a"], ["r", "b", "% c"], ["s", "% d"], ["", "% e"]]
    (below 1).perform "t" g =
        .ok [["id", "a"], ["r", "b", "% c"], ["s", "% d"], ["t", "", "% c"], ["", "% e"]] ∧
      Inherits ["r", "b", "% c"] ["t", "", "% c"] := by
  intro g
  have hperform : (below 1).perform "t" g =
      .ok [["id", "a"], ["r", "b", "% c"], ["s", "% d"], ["t", "", "% c"], ["", "% e"]] := rfl
  obtain ⟨row, -, hrow, hinherits, -⟩ := new_row_inherits hperform
  cases hrow
  exact ⟨hperform, hinherits _ rfl⟩

/-- A row that is added to a header and a footer takes over the formula of the footer. -/
theorem footer_formula_copied :
    let g : Grid := [["id", "total"], ["", "% sum()"]]
    g.bodyRows = [] ∧
      atEnd.perform "r" g = .ok [["id", "total"], ["r", "% sum()"], ["", "% sum()"]] :=
  ⟨rfl, rfl⟩

end RowAddition

end Grid

end FormulaSheet
