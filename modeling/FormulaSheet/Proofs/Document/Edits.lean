import FormulaSheet.Document.Operation
import FormulaSheet.Proofs.Csv.RoundTrip
import FormulaSheet.Proofs.Table.Columns

/-!
Operations that write the text of a document. Whatever such an operation does in between, if it
succeeds then it has replaced the text by another one and done nothing else (`perform_edit`); an
operation on the grid has written the grid that its edit made of the one in the text
(`perform_gridEdit`).
-/

namespace FormulaSheet

theorem History.set_present (h : History) (text : String) : (h.set text).2.present = text := by
  unfold set
  split
  · rename_i heq
    exact heq.symm
  · rfl

namespace Document

namespace Operation

/-- Operations on the grid of the document. -/
def isGridEdit : Operation → Bool
  | .setCell .. | .setHeader .. | .setFooter .. | .insertRowAbove _ | .insertRowBelow _
  | .appendRow | .deleteRow _ | .insertColumn _ | .deleteColumn _ | .deleteEmptyColumn _
  | .fillColumn .. => true
  | _ => false

/-- Operations that put another text in the place of the present one. -/
def isEdit : Operation → Bool
  | .startDraft | .commitDraft | .undo | .redo | .setQuerySpec _ | .rename _ => false
  | _ => true

/-- The operation makes the second grid out of the first one. -/
inductive Edits (rowId : String) : Operation → Grid → Grid → Prop
  | setCell {row column : Nat} {value : String} {g g' : Grid} :
    g.setCell row column value = .ok g' → Edits rowId (.setCell row column value) g g'
  | setHeader {column : Nat} {name : String} {g g' : Grid} :
    g.renameColumn column name = .ok g' → Edits rowId (.setHeader column name) g g'
  | setFooter (column : Nat) (value : String) (g : Grid) :
    Edits rowId (.setFooter column value) g (g.setFooterCell column value)
  | insertRowAbove {row : Nat} {g g' : Grid} :
    g.insertRowAbove rowId row = .ok g' → Edits rowId (.insertRowAbove row) g g'
  | insertRowBelow {row : Nat} {g g' : Grid} :
    g.insertRowBelow rowId row = .ok g' → Edits rowId (.insertRowBelow row) g g'
  | appendRow (g : Grid) : Edits rowId .appendRow g (g.appendRow rowId)
  | deleteRow {row : Nat} {g g' : Grid} :
    g.deleteEmptyRow row = .ok (some g') → Edits rowId (.deleteRow row) g g'
  | insertColumn (column : Nat) (g : Grid) :
    Edits rowId (.insertColumn column) g (g.insertColumn column)
  | deleteColumn {column : Nat} {g g' : Grid} :
    g.deleteColumn column = .ok g' → Edits rowId (.deleteColumn column) g g'
  | deleteEmptyColumn {column : Nat} {g g' : Grid} :
    g.deleteEmptyColumn column = .ok (some g') → Edits rowId (.deleteEmptyColumn column) g g'
  | fillColumn {column : Nat} {value : String} {g g' : Grid} :
    g.fillColumn column value = .ok g' → Edits rowId (.fillColumn column value) g g'

end Operation

section

variable {d d' : Document} {o : Outlook} {rowId : String} {op : Operation}

/-! ## Replacing the text -/

theorem schedule_history (d : Document) (u : Update) : (d.schedule u).history = d.history := by
  unfold schedule
  split <;> rfl

theorem setQuerySpec_history (spec : String) (d : Document) :
    (d.setQuerySpec spec).history = d.history := by
  unfold setQuerySpec
  split
  · rfl
  · exact schedule_history _ _

theorem rename_history (name : String) (d : Document) : (d.rename name).history = d.history := by
  unfold rename
  split
  · rfl
  · exact schedule_history _ _

theorem textChanged_history (d : Document) : d.textChanged.history = d.history :=
  schedule_history _ _

theorem replaceText_self (d : Document) : d.replaceText d.text = d := by
  have hset : d.history.set d.text = (false, d.history) := if_pos rfl
  unfold replaceText
  rw [hset]

theorem replaceText_of_ne {text : String} (h : text ≠ d.text) :
    d.replaceText text = { d with history := (d.history.set text).2 }.textChanged := by
  have hset : (d.history.set text).1 = true := by
    have hne : text ≠ d.history.present := h
    unfold History.set
    rw [if_neg hne]
  unfold replaceText
  split
  · rename_i history heq
    rw [heq]
  · rename_i history heq
    rw [heq] at hset
    cases hset

theorem replaceText_history (text : String) (d : Document) :
    (d.replaceText text).history = (d.history.set text).2 := by
  by_cases h : text = d.text
  · rw [h, replaceText_self]
    show d.history = (if d.history.present = d.history.present then _ else _ : Bool × History).2
    rw [if_pos rfl]
  · rw [replaceText_of_ne h, textChanged_history]

theorem text_replaceText (text : String) (d : Document) : (d.replaceText text).text = text := by
  unfold Document.text
  rw [replaceText_history, History.set_present]

/-- A grid that is written is read again but for rows without cells. -/
theorem grid_replaceText_write (g : Grid) (d : Document) :
    (d.replaceText (Csv.write g)).grid = Csv.filled g := by
  unfold grid
  rw [text_replaceText, Csv.read_write_eq_filled]

/-! ## What the operations write -/

theorem editGrid_eq_ok {f : Grid → Except Error Grid} (h : editGrid f d = .ok d') :
    ∃ g, f d.grid = .ok g ∧ d' = d.replaceText (Csv.write g) := by
  cases hf : f d.grid with
  | error e => simp [editGrid, hf, bind, Except.bind] at h
  | ok g =>
    refine ⟨g, rfl, ?_⟩
    simpa [editGrid, hf, bind, Except.bind, pure, Except.pure] using h.symm

theorem perform_gridEdit (hop : op.isGridEdit = true) (h : (d.perform o rowId op).1 = .ok d') :
    ∃ g, op.Edits rowId d.grid g ∧ d' = d.replaceText (Csv.write g) := by
  cases op with
  | setCell row column value =>
    obtain ⟨g, hg, hd⟩ := editGrid_eq_ok h
    exact ⟨g, .setCell hg, hd⟩
  | setHeader column name =>
    obtain ⟨g, hg, hd⟩ := editGrid_eq_ok h
    exact ⟨g, .setHeader hg, hd⟩
  | setFooter column value =>
    simp only [perform, setFooter] at h
    obtain ⟨g, hg, hd⟩ := editGrid_eq_ok h
    cases hg
    exact ⟨_, .setFooter column value d.grid, hd⟩
  | insertRowAbove row =>
    obtain ⟨g, hg, hd⟩ := editGrid_eq_ok h
    exact ⟨g, .insertRowAbove hg, hd⟩
  | insertRowBelow row =>
    obtain ⟨g, hg, hd⟩ := editGrid_eq_ok h
    exact ⟨g, .insertRowBelow hg, hd⟩
  | appendRow =>
    simp only [perform, appendRow] at h
    obtain ⟨g, hg, hd⟩ := editGrid_eq_ok h
    cases hg
    exact ⟨_, .appendRow d.grid, hd⟩
  | deleteRow row =>
    simp only [perform, deleteRow] at h
    obtain ⟨g, hg, hd⟩ := editGrid_eq_ok h
    -- a deletion that is refused leaves no grid
    obtain ⟨left, hleft, hg⟩ := Grid.exists_of_bind_eq_ok hg
    cases left with
    | none => cases hg
    | some g' =>
      cases hg
      exact ⟨g, .deleteRow hleft, hd⟩
  | insertColumn column =>
    simp only [perform, insertColumn] at h
    obtain ⟨g, hg, hd⟩ := editGrid_eq_ok h
    cases hg
    exact ⟨_, .insertColumn column d.grid, hd⟩
  | deleteColumn column =>
    obtain ⟨g, hg, hd⟩ := editGrid_eq_ok h
    exact ⟨g, .deleteColumn hg, hd⟩
  | deleteEmptyColumn column =>
    simp only [perform, deleteEmptyColumn] at h
    obtain ⟨g, hg, hd⟩ := editGrid_eq_ok h
    obtain ⟨left, hleft, hg⟩ := Grid.exists_of_bind_eq_ok hg
    cases left with
    | none => cases hg
    | some g' =>
      cases hg
      exact ⟨g, .deleteEmptyColumn hleft, hd⟩
  | fillColumn column value =>
    obtain ⟨g, hg, hd⟩ := editGrid_eq_ok h
    exact ⟨g, .fillColumn hg, hd⟩
  | _ => cases hop

theorem mem_changedRows {before after : List Fields} {i : Nat} {f : Fields} :
    (i, f) ∈ changedRows before after ↔
      ∃ old, before[i]? = some old ∧ after[i]? = some f ∧ f ≠ old := by
  unfold changedRows
  rw [List.mem_filterMap]
  constructor
  · rintro ⟨⟨⟨old, new⟩, k⟩, hmem, hsome⟩
    obtain ⟨hbefore, hafter⟩ :=
      List.getElem?_zip_eq_some.mp (List.mem_zipIdx_iff_getElem?.mp hmem)
    by_cases hsame : new = old
    · simp [hsame] at hsome
    · obtain ⟨rfl, rfl⟩ : k = i ∧ new = f := by simpa [hsame] using hsome
      exact ⟨old, hbefore, hafter, hsame⟩
  · rintro ⟨old, hbefore, hafter, hne⟩
    have hzip : (before.zip after)[i]? = some (old, f) :=
      List.getElem?_zip_eq_some.mpr ⟨hbefore, hafter⟩
    exact ⟨((old, f), i), List.mem_zipIdx_iff_getElem?.mpr hzip, by simp [hne]⟩

/-- Only rows of the body are said to have changed. -/
theorem lt_of_mem_changedRows {before after : List Fields} {p : Nat × Fields}
    (hp : p ∈ changedRows before after) : p.1 < before.length := by
  obtain ⟨old, hbefore, -⟩ := mem_changedRows.mp hp
  exact (List.getElem?_eq_some_iff.mp hbefore).1

theorem writeBack_cases (after : List Fields) (d : Document) :
    let changes := changedRows d.view.allFields after
    let written := writeRows d.view.columns changes d.grid
    (changes = [] ∧ d.writeBack after = (0, d)) ∨
      (changes ≠ [] ∧
        d.writeBack after = (changes.length, d.replaceText (Csv.write written))) := by
  intro changes written
  cases hempty : changes.isEmpty with
  | true => exact .inl ⟨List.isEmpty_iff.mp hempty, if_pos hempty⟩
  | false =>
    have hne : ¬ changes.isEmpty = true := by simp [hempty]
    exact .inr ⟨fun hnil => hne (by rw [hnil]; rfl), if_neg hne⟩

theorem writeBack_eq (after : List Fields) (d : Document) :
    ∃ text, (d.writeBack after).2 = d.replaceText text := by
  rcases writeBack_cases after d with ⟨-, hback⟩ | ⟨-, hback⟩
  · exact ⟨d.text, by rw [hback, replaceText_self]⟩
  · exact ⟨_, by rw [hback]⟩

/-- The function of the button in a cell leaves a value in the place of the rows. -/
def Leaves (o : Outlook) (row column : Nat) (d : Document) (left : Script.Value) : Prop :=
  let c := d.cellContext o row column
  ∃ raw label action, d.rawCell? row column = some raw ∧
    (Formula.evaluate c raw).failure = none ∧
    (Formula.evaluate c raw).value = .button label action ∧
    (Formula.leave c action d.view.allFields row column).1 = .ok left

/-- A button that was pressed has left something in the place of the rows, and the rows were written
back. -/
theorem pressButton_eq_ok {row column count : Nat}
    (h : (d.pressButton o row column).1 = .ok (count, d')) :
    ∃ left, d.Leaves o row column left ∧
      d.writeBack (Formula.rowsAfter d.view.columns left d.view.allFields) = (count, d') := by
  unfold pressButton at h
  cases hraw : d.rawCell? row column with
  | none =>
    rw [hraw] at h
    cases h
  | some raw =>
    simp only [hraw] at h
    split at h
    · cases h
    · rename_i label action hfailure hvalue
      rcases hleave : Formula.leave (d.cellContext o row column) action d.view.allFields row column
        with ⟨left, asked⟩
      cases left with
      | error message => simp [Formula.press, hleave, Except.map] at h
      | ok left =>
        refine ⟨left, ⟨raw, label, action, hraw, hfailure, hvalue, by rw [hleave]⟩, ?_⟩
        simpa [Formula.press, hleave, Except.map] using h
    · cases h

theorem perform_pressButton {row column : Nat}
    (h : (d.perform o rowId (.pressButton row column)).1 = .ok d') :
    ∃ after, d' = (d.writeBack after).2 := by
  have h : ((d.pressButton o row column).1).map Prod.snd = .ok d' := h
  cases hp : (d.pressButton o row column).1 with
  | error e => simp [hp, Except.map] at h
  | ok p =>
    obtain ⟨count, changed⟩ := p
    obtain rfl : changed = d' := by simpa [hp, Except.map] using h
    obtain ⟨left, -, hwritten⟩ := pressButton_eq_ok hp
    exact ⟨_, by rw [hwritten]⟩

theorem perform_edit (hop : op.isEdit = true) (h : (d.perform o rowId op).1 = .ok d') :
    ∃ text, d' = d.replaceText text := by
  cases hgrid : op.isGridEdit with
  | true =>
    obtain ⟨g, -, hd⟩ := perform_gridEdit hgrid h
    exact ⟨_, hd⟩
  | false =>
    -- what is left of the edits is to replace the whole text and to press a button
    cases op with
    | replaceText text =>
      cases h
      exact ⟨text, rfl⟩
    | pressButton row column =>
      obtain ⟨after, rfl⟩ := perform_pressButton h
      exact writeBack_eq after d
    | _ => simp [Operation.isEdit, Operation.isGridEdit] at hop hgrid

end

end Document

end FormulaSheet
