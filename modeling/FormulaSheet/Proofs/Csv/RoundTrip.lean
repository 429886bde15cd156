import FormulaSheet.Table.Csv

/-!
Writing a table and reading it again. A text cannot tell a row without cells from a row with one
empty cell, nor a table without rows from a table with one such row; everything else comes back
(`read_write`). What was read has cells in every row, so that a second reading gives the same.
-/

namespace FormulaSheet.Csv

/-- A row as its text tells it: one without cells is read as one empty cell. -/
def filledRow : List String → List String
  | [] => [""]
  | cell :: row => cell :: row

/-- A table as its text tells it. -/
def filled : Grid → Grid
  | [] => [[""]]
  | row :: rows => (row :: rows).map filledRow

/-- There are rows, and every row has cells. -/
def IsFilled (g : Grid) : Prop := g ≠ [] ∧ ∀ row ∈ g, row ≠ []

theorem filledRow_of_ne_nil {row : List String} (h : row ≠ []) : filledRow row = row := by
  cases row with
  | nil => exact absurd rfl h
  | cons cell row => rfl

theorem filled_eq_self {g : Grid} (h : IsFilled g) : filled g = g := by
  obtain ⟨hg, hrows⟩ := h
  cases g with
  | nil => exact absurd rfl hg
  | cons row rows =>
    calc filled (row :: rows) = (row :: rows).map filledRow := rfl
      _ = (row :: rows).map id := List.map_congr_left fun r hr => filledRow_of_ne_nil (hrows r hr)
      _ = row :: rows := List.map_id _

/-! ## Single characters -/

section Characters

variable (p : Progress) {c : Char} {cs : List Char}

theorem readFrom_plain (hq : c ≠ '"') (hc : c ≠ ',') (hn : c ≠ '\n') :
    readFrom false p (c :: cs) = readFrom false (p.push c) cs := by
  rw [readFrom] <;> simp_all

theorem readFrom_inside (hq : c ≠ '"') :
    readFrom true p (c :: cs) = readFrom true (p.push c) cs := by
  rw [readFrom] <;> simp_all

/-- A quote that no other one follows ends quoting. -/
theorem readFrom_closing (h : cs.head? ≠ some '"') :
    readFrom true p ('"' :: cs) = readFrom false p cs := by
  cases cs with
  | nil => rfl
  | cons d ds =>
    rw [readFrom]
    rintro rest ⟨rfl, rfl⟩
    exact h rfl

end Characters

/-! ## Cells -/

namespace Progress

/-- Several characters one after the other. -/
def pushAll (p : Progress) (cs : List Char) : Progress :=
  { p with chars := cs.reverse ++ p.chars }

@[simp] theorem pushAll_nil (p : Progress) : p.pushAll [] = p := rfl

@[simp] theorem pushAll_cons (p : Progress) (c : Char) (cs : List Char) :
    p.pushAll (c :: cs) = (p.push c).pushAll cs := by
  simp [pushAll, push]

end Progress

theorem readFrom_unquoted (p : Progress) (cs rest : List Char)
    (h : ∀ c ∈ cs, c ≠ '"' ∧ c ≠ ',' ∧ c ≠ '\n') :
    readFrom false p (cs ++ rest) = readFrom false (p.pushAll cs) rest := by
  induction cs generalizing p with
  | nil => rfl
  | cons c cs ih =>
    obtain ⟨hq, hc, hn⟩ := h c (by simp)
    rw [List.cons_append, readFrom_plain p hq hc hn, ih _ (fun d hd => h d (by simp [hd])),
      Progress.pushAll_cons]

/-- Inside quotes every character is one of the cell, and a doubled quote is one quote. -/
theorem readFrom_doubled (p : Progress) (cs rest : List Char) :
    readFrom true p (doubled cs ++ rest) = readFrom true (p.pushAll cs) rest := by
  induction cs generalizing p with
  | nil => rfl
  | cons c cs ih =>
    have hd : doubled (c :: cs) = (if c = '"' then ['"', '"'] else [c]) ++ doubled cs := rfl
    rw [hd, Progress.pushAll_cons, ← ih]
    by_cases hc : c = '"'
    · subst hc
      rfl
    · rw [if_neg hc, List.append_assoc, List.singleton_append, readFrom_inside p hc]

theorem not_needsQuotes {cell : String} (h : needsQuotes cell = false) :
    ∀ c ∈ cell.toList, c ≠ '"' ∧ c ≠ ',' ∧ c ≠ '\n' := by
  intro c hc
  have := List.any_eq_false.mp h c hc
  simp_all

/-- A written cell is read as its characters, whatever follows that is no quote. -/
theorem readFrom_writeCell (p : Progress) (cell : String) {rest : List Char}
    (h : rest.head? ≠ some '"') :
    readFrom false p ((writeCell cell).toList ++ rest) =
      readFrom false (p.pushAll cell.toList) rest := by
  cases hq : needsQuotes cell with
  | false => simpa [writeCell, hq] using readFrom_unquoted p _ rest (not_needsQuotes hq)
  | true =>
    have hw : (writeCell cell).toList ++ rest =
        '"' :: (doubled cell.toList ++ '"' :: rest) := by
      simp [writeCell, hq]
    rw [hw, readFrom, readFrom_doubled, readFrom_closing _ h]

/-! ## Rows -/

namespace Progress

/-- The state after the cells of a row, the last of which is still open. -/
def pushRow : Progress → List String → Progress
  | p, [] => p
  | p, [cell] => p.pushAll cell.toList
  | p, cell :: next :: row => pushRow (p.pushAll cell.toList).endCell (next :: row)

/-- Nothing of a row has been read, and these rows before it. -/
def atRow (rows : List (List String)) : Progress := { rows := rows }

theorem endRow_pushAll (p : Progress) (h : p.chars = []) (cell : String) :
    (p.pushAll cell.toList).endRow = atRow ((p.cells.reverse ++ [cell]) :: p.rows) := by
  simp [pushAll, endRow, endCell, atRow, h]

/-- Ending the row that was read adds it to the finished rows. -/
theorem endRow_pushRow (p : Progress) (h : p.chars = []) (row : List String) :
    (p.pushRow row).endRow = atRow ((p.cells.reverse ++ filledRow row) :: p.rows) := by
  induction row generalizing p with
  | nil => simpa [pushRow, filledRow] using endRow_pushAll p h ""
  | cons cell row ih =>
    cases row with
    | nil => exact endRow_pushAll p h cell
    | cons next row =>
      rw [pushRow, ih _ rfl]
      simp [endCell, pushAll, filledRow, h]

end Progress

/-- What can follow a written row: nothing or the next row. -/
def EndsRow (rest : List Char) : Prop := rest = [] ∨ rest.head? = some '\n'

theorem EndsRow.no_quote {rest : List Char} (h : EndsRow rest) : rest.head? ≠ some '"' := by
  rcases h with rfl | h <;> simp [*]

theorem readFrom_writeRow (p : Progress) (row : List String) {rest : List Char}
    (h : EndsRow rest) :
    readFrom false p ((writeRow row).toList ++ rest) = readFrom false (p.pushRow row) rest := by
  induction row generalizing p with
  | nil => simp [writeRow, Progress.pushRow]
  | cons cell row ih =>
    cases row with
    | nil => simpa [writeRow, Progress.pushRow] using readFrom_writeCell p cell h.no_quote
    | cons next row =>
      have hw : (writeRow (cell :: next :: row)).toList ++ rest =
          (writeCell cell).toList ++ ',' :: ((writeRow (next :: row)).toList ++ rest) := by
        simp [writeRow]
      rw [hw, readFrom_writeCell p cell (by simp), readFrom, ih]
      rfl

/-! ## Tables -/

theorem readFrom_write (rows : List (List String)) (row : List String) (more : Grid) :
    readFrom false (.atRow rows) (write (row :: more)).toList =
      rows.reverse ++ (row :: more).map filledRow := by
  induction more generalizing rows row with
  | nil =>
    have hw : (write [row]).toList = (writeRow row).toList ++ [] := by simp [write]
    rw [hw, readFrom_writeRow _ _ (.inl rfl), readFrom, Progress.grid,
      Progress.endRow_pushRow _ rfl]
    simp [Progress.atRow]
  | cons next more ih =>
    have hw : (write (row :: next :: more)).toList =
        (writeRow row).toList ++ '\n' :: (write (next :: more)).toList := by
      simp [write]
    rw [hw, readFrom_writeRow _ _ (.inr rfl), readFrom, Progress.endRow_pushRow _ rfl, ih]
    simp [Progress.atRow]

/-- Reading what was written gives the table, but for rows without cells. -/
theorem read_write_eq_filled (g : Grid) : read (write g) = filled g := by
  cases g with
  | nil => rfl
  | cons row rows => exact readFrom_write [] row rows

/-! ## What is read -/

theorem Progress.grid_isFilled {p : Progress} (h : ∀ row ∈ p.rows, row ≠ []) :
    IsFilled p.grid := by
  constructor
  · simp [grid, endRow]
  · intro row hrow
    simp only [grid, endRow, endCell, List.mem_reverse, List.mem_cons] at hrow
    rcases hrow with rfl | hrow
    · simp
    · exact h row hrow

theorem readFrom_isFilled (quoted : Bool) (p : Progress) (cs : List Char)
    (h : ∀ row ∈ p.rows, row ≠ []) : IsFilled (readFrom quoted p cs) := by
  fun_induction readFrom quoted p cs with
  | case1 => exact Progress.grid_isFilled h
  | case7 p cs ih =>
    -- the only character that adds a row is a line break, and the added row has its open cell
    refine ih fun row hrow => ?_
    simp only [Progress.endRow, Progress.endCell, List.mem_cons] at hrow
    rcases hrow with rfl | hrow
    · simp
    · exact h row hrow
  | _ => simp_all [Progress.push, Progress.endCell]

theorem read_isFilled (text : String) : IsFilled (read text) :=
  readFrom_isFilled false {} text.toList (by simp)

/-! ## The round trip -/

/-- A written table is read as it was, once rows without cells are filled; so a table whose rows
all have cells comes back, and what was read from any text does. -/
theorem read_write :
    (∀ g, read (write g) = filled g) ∧
      (∀ g, g ≠ [] → (∀ row ∈ g, row ≠ []) → read (write g) = g) ∧
      ∀ text, read (write (read text)) = read text := by
  refine ⟨read_write_eq_filled, fun g hg hrows => ?_, fun text => ?_⟩
  · rw [read_write_eq_filled, filled_eq_self ⟨hg, hrows⟩]
  · rw [read_write_eq_filled, filled_eq_self (read_isFilled text)]

theorem read_write_quotes :
    read (write [["\"", ","], ["\n", "\r", ""]]) = [["\"", ","], ["\n", "\r", ""]] :=
  read_write.2.1 _ (by simp) (by simp)

end FormulaSheet.Csv
