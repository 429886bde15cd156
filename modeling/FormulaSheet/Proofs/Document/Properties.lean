import FormulaSheet.Proofs.Document.Showing
import FormulaSheet.Proofs.Formula.Levels
import FormulaSheet.Proofs.Table.Fields

/-!
Properties and cells. A property of a row is read by evaluating the cell that has it in that row,
but in the column of the reader: `columnIndex`, `sum()` and `count()` in it are about the column
that is read from, or about none. So it is what the cell shows for a reader in the cell's column.
-/

namespace FormulaSheet

/-- What an evaluation gives to who reads it as a property. -/
def Evaluation.result (e : Evaluation) : Except String CellValue :=
  match e.failure with
  | some message => .error message
  | none => .ok e.value

namespace Document

variable {o : Outlook} {d : Document} {i j : Nat} {raw column name : String}

/-- The surroundings of a formula in a row of the body, in some column or, as filters and sort keys
have it, in none. -/
def rowContext (o : Outlook) (d : Document) (row : Nat) (column : Option Nat) : Context :=
  { (d.context o).withRow row ((d.view.fields? row).getD {}) with columnIndex := column }

theorem cellContext_eq (o : Outlook) (d : Document) (row column : Nat) :
    d.cellContext o row column = d.rowContext o row (some column) := rfl

/-- The first column of its name gives the text of its cell. -/
theorem rawProperty?_rowContext (hcell : d.rawCell? i j = some raw)
    (hcolumn : IsFirstColumn d.view.columns j column) (hname : sameName column name = true)
    (k : Option Nat) : ∃ fields,
      Formula.rawProperty? (d.rowContext o i k) name = some (fields, raw) ∧
        (d.rowContext o i k).row = some fields := by
  obtain ⟨cells, hcells, hraw⟩ := Option.bind_eq_some_iff.mp hcell
  have hrow : (d.rowContext o i k).row = some (Fields.ofRow d.view.columns cells) := by
    simp [rowContext, Context.withRow, View.fields?, hcells]
  refine ⟨_, ?_, hrow⟩
  have hfind : (d.rowContext o i k).findColumn? name = some column := hcolumn.find? hname
  have hget : (Fields.ofRow d.view.columns cells).get? column = some (cells.getD j "") :=
    Fields.get?_ofRow hcolumn
  rw [List.getD_eq_getElem?_getD, hraw] at hget
  simp only [Formula.rawProperty?, hfind, Context.currentRow?, hrow, hget]
  rfl

/-- A property of a row is its cell, evaluated in the column of the reader. -/
theorem propertyWith_rowContext (hcell : d.rawCell? i j = some raw)
    (hformula : Formula.isFormula raw = true) (hcolumn : IsFirstColumn d.view.columns j column)
    (hname : sameName column name = true) (evaluate : Formula.Evaluator) (k : Option Nat) :
    Formula.propertyWith evaluate (d.rowContext o i k) name =
      ((evaluate (d.rowContext o i k) raw).result, (evaluate (d.rowContext o i k) raw).asked) := by
  obtain ⟨fields, hproperty, hrow⟩ := rawProperty?_rowContext hcell hcolumn hname k (o := o)
  have hcontext : { d.rowContext o i k with row := some fields } = d.rowContext o i k := by
    rw [← hrow]
  rw [Formula.propertyWith, hproperty]
  simp only [hformula, if_true, hcontext, Evaluation.result]
  cases (evaluate (d.rowContext o i k) raw).failure with
  | none => rfl
  | some message => rfl

/-- Filters and sort keys read a property in no column, and as empty where its formula fails. -/
theorem resolvedText_row {row : Query.Row} (hrow : d.view.fields? row.index = some row.fields)
    (hcell : d.rawCell? row.index j = some raw) (hformula : Formula.isFormula raw = true)
    (hcolumn : IsFirstColumn d.view.columns j column) (hname : sameName column name = true) :
    Query.resolvedText (d.context o) row name =
      ((Formula.evaluate (d.rowContext o row.index none) raw).result.toOption.map
        CellValue.display).getD "" := by
  have hcontext : (d.context o).withRow row.index row.fields = d.rowContext o row.index none := by
    rw [rowContext, hrow]
    rfl
  rw [Query.resolvedText, hcontext, Formula.property,
    propertyWith_rowContext hcell hformula hcolumn hname]
  cases (Formula.evaluate (d.rowContext o row.index none) raw).result with
  | ok value => rfl
  | error message => rfl

/-- A property whose formula stays within so many levels gives any reader with as many levels left
what the formula gives in the row of the property and the column of the reader. That is what the
cell shows where the formula gives the same in the column of the cell, as to a reader in it. To a
filter or a sort key, which stand in no column, the row has the text of what it gives in none. -/
theorem property_spec (o : Outlook) (d : Document) (k : Option Nat) {levels : Nat}
    (hcell : d.rawCell? i j = some raw) (hformula : Formula.isFormula raw = true)
    (hcolumn : IsFirstColumn d.view.columns j column) (hname : sameName column name = true)
    (hwithin : Formula.IsWithin levels (d.rowContext o i k) raw)
    (hlimit : levels ≤ Formula.depthLimit + 1) :
    let e := Formula.evaluate (d.rowContext o i k) raw
    (∀ more, levels ≤ more →
      Formula.propertyWith (Formula.evaluateAt more) (d.rowContext o i k) name =
        (e.result, e.asked)) ∧
    Formula.propertyWith Formula.evaluate (d.rowContext o i k) name = (e.result, e.asked) ∧
    (Formula.evaluate (d.cellContext o i j) raw = e → e.failure = none →
      ∃ shown, (d.evaluateCell o i j).1 = some shown ∧ shown.display = e.value.display ∧
        ∀ row ∈ (d.render o).1.rows, row.index = i → row.cells[j]? = some shown) ∧
    ∀ row : Query.Row, row.index = i → d.view.fields? i = some row.fields →
      Query.resolvedText (d.context o) row name =
        ((Formula.evaluate (d.rowContext o i none) raw).result.toOption.map
          CellValue.display).getD "" := by
  intro e
  have hevaluate : Formula.evaluateAt levels (d.rowContext o i k) raw = e :=
    (hwithin.mono hlimit).symm
  refine ⟨fun more hmore => ?_, ?_, ?_, ?_⟩
  · rw [propertyWith_rowContext hcell hformula hcolumn hname, hwithin.mono hmore, hevaluate]
  · rw [propertyWith_rowContext hcell hformula hcolumn hname]
  · intro hown hfailure
    have hshown : (d.evaluateCell o i j).1 = some (showCell (d.cellContext o i j) raw).1 := by
      rw [evaluateCell, hcell]
    refine ⟨_, hshown, ?_, fun row hrow hindex => ?_⟩
    · rw [← hown] at hfailure ⊢
      change (Formula.evaluate (d.cellContext o i j) raw).display = _
      rw [Evaluation.display, hfailure]
    · rw [render_cell hrow, hindex, hshown]
  · rintro row rfl hrow
    exact resolvedText_row hrow hcell hformula hcolumn hname

/-! ## A formula that depends on its column -/

/-- The script of `columns[columnIndex]`, the name of the column that it is evaluated in. -/
def columnNameScript : List Script.Statement :=
  [.expr (.chain (.variable "columns") [.index false (.variable "columnIndex")])]

def isColumnNameScript : Option Script.Program → Bool
  | some ⟨[], [.expr (.chain (.variable a) [.index false (.variable b)])]⟩ =>
    a == "columns" && b == "columnIndex"
  | _ => false

theorem eq_of_isColumnNameScript {p : Option Script.Program} (h : isColumnNameScript p = true) :
    p = some ⟨[], columnNameScript⟩ := by
  unfold isColumnNameScript at h
  split at h
  · simp only [Bool.and_eq_true, beq_iff_eq] at h
    rw [h.1, h.2, columnNameScript]
  · cases h

theorem parse?_columnName : Script.Program.parse? Formula.closureFamily
    ["rows", "columns", "row", "rowValues", "rowIndex", "columnIndex"] "columns[columnIndex]" =
      some ⟨[], columnNameScript⟩ := eq_of_isColumnNameScript (by decide +kernel)

theorem value_columnName (w : Script.World) (rows row fields index : Script.Value) {k : Nat}
    {name : String} (hk : (k = 1 ∧ name = "A") ∨ (k = 2 ∧ name = "B")) :
    ∃ s, w.value columnNameScript
      { scope := #[("rows", rows), ("columns", .array #[.text "id", .text "A", .text "B"]),
          ("row", row), ("rowValues", fields), ("rowIndex", index), ("columnIndex", .int k)] } =
        .ok (.text name) s ∧ s.asked = [] := by
  rcases hk with ⟨rfl, rfl⟩ | ⟨rfl, rfl⟩
  · exact ⟨_, rfl, rfl⟩
  · exact ⟨_, rfl, rfl⟩

theorem runScript_columnName (evaluate : Formula.Evaluator) {c : Context} {k : Nat} {name : String}
    (hcolumns : c.columns = ["id", "A", "B"]) (hindex : c.columnIndex = some k)
    (hk : (k = 1 ∧ name = "A") ∨ (k = 2 ∧ name = "B")) :
    Formula.runScript evaluate c "columns[columnIndex]" =
      { isFormula := true, value := .text name } := by
  have hnames : c.bindings.map Prod.fst =
      ["rows", "columns", "row", "rowValues", "rowIndex", "columnIndex"] := rfl
  have hbindings : c.bindings = [("rows", Fields.rowsToScript c.rows),
      ("columns", .array #[.text "id", .text "A", .text "B"]),
      ("row", (c.row.map fun f => Script.Value.map f.toMap).getD .unit),
      ("rowValues", (c.row.map fun f => Script.Value.map f.toMap).getD .unit),
      ("rowIndex", (c.rowIndex.map fun n => Script.Value.int n).getD .unit),
      ("columnIndex", .int k)] := by
    unfold Context.bindings
    rw [hcolumns, hindex]
    rfl
  obtain ⟨s, hvalue, hasked⟩ := value_columnName
    (Formula.world c [] (Formula.readProperty evaluate c)) (Fields.rowsToScript c.rows)
    ((c.row.map fun f => Script.Value.map f.toMap).getD .unit)
    ((c.row.map fun f => Script.Value.map f.toMap).getD .unit)
    ((c.rowIndex.map fun n => Script.Value.int n).getD .unit) hk
  unfold Formula.runScript
  simp only [hnames, parse?_columnName]
  rw [hbindings, hvalue, Formula.outcome, hasked, CellValue.ofScript]

theorem evaluateOver_columnName (limit : Formula.Evaluator) (levels : Nat) {c : Context} {k : Nat}
    {name : String} (hcolumns : c.columns = ["id", "A", "B"]) (hindex : c.columnIndex = some k)
    (hk : (k = 1 ∧ name = "A") ∨ (k = 2 ∧ name = "B")) :
    Formula.evaluateOver limit (levels + 1) c "% columns[columnIndex]" =
      { isFormula := true, value := .text name } := by
  have hformula : ¬ (!Formula.isFormula "% columns[columnIndex]") = true := by decide +kernel
  have hempty : ¬ (Formula.stripped "% columns[columnIndex]").isEmpty = true := by decide +kernel
  have hscript : Desugaring.toScript (Formula.stripped "% columns[columnIndex]") =
      "columns[columnIndex]" := by decide +kernel
  rw [Formula.evaluateOver, Formula.guarded, if_neg hformula, if_neg hempty, hscript,
    runScript_columnName _ hcolumns hindex hk]

/-- A table with a column that shows its own name and one that reads it. -/
def selfNaming : Document := new defaultLimit
  "id,A,B\nr1,% columns[columnIndex],% prop('A')\n,,"

theorem view_selfNaming : selfNaming.view =
    ⟨["id", "A", "B"], [["r1", "% columns[columnIndex]", "% prop('A')"]], ["", "", ""]⟩ := by
  decide +kernel

theorem isFirstColumn_selfNaming : IsFirstColumn selfNaming.view.columns 1 "A" := by
  rw [view_selfNaming]
  refine ⟨rfl, fun k hk other hother => ?_⟩
  obtain rfl : k = 0 := by omega
  obtain rfl : "id" = other := Option.some.inj hother
  decide +kernel

theorem rawCell?_selfNaming : selfNaming.rawCell? 0 1 = some "% columns[columnIndex]" := by
  rw [rawCell?, view_selfNaming]
  rfl

theorem isFormula_selfNaming : Formula.isFormula "% columns[columnIndex]" = true := by
  decide +kernel

section

variable {k : Nat} (o : Outlook) (hk : (k = 1 ∧ name = "A") ∨ (k = 2 ∧ name = "B"))
include hk

theorem evaluateAt_selfNaming (levels : Nat) :
    Formula.evaluateAt (levels + 1) (selfNaming.rowContext o 0 (some k))
      "% columns[columnIndex]" = { isFormula := true, value := .text name } := by
  rw [Formula.evaluateAt_eq]
  exact evaluateOver_columnName _ _ (congrArg View.columns view_selfNaming) rfl hk

theorem isWithin_selfNaming (levels : Nat) : Formula.IsWithin (levels + 1)
    (selfNaming.rowContext o 0 (some k)) "% columns[columnIndex]" := by
  intro limit
  rw [evaluateAt_selfNaming o hk]
  exact evaluateOver_columnName _ _ (congrArg View.columns view_selfNaming) rfl hk

end

/-- Read from its own column the cell gives what it shows. -/
theorem property_spec_selfNaming :
    Formula.IsWithin 1 (selfNaming.rowContext { today := .epoch } 0 (some 1))
        "% columns[columnIndex]" ∧
      Formula.propertyWith Formula.evaluate
          (selfNaming.rowContext { today := .epoch } 0 (some 1)) "a" = (.ok (.text "A"), []) ∧
      ∃ shown, (selfNaming.evaluateCell { today := .epoch } 0 1).1 = some shown ∧
        shown.display = "A" := by
  have hwithin := isWithin_selfNaming { today := .epoch } (.inl ⟨rfl, rfl⟩) 0
  have hname : sameName "A" "a" = true := by decide +kernel
  have hvalue : Formula.evaluate (selfNaming.rowContext { today := .epoch } 0 (some 1))
      "% columns[columnIndex]" = { isFormula := true, value := .text "A" } :=
    evaluateAt_selfNaming { today := .epoch } (.inl ⟨rfl, rfl⟩) Formula.depthLimit
  obtain ⟨-, hproperty, hshown, -⟩ := property_spec { today := .epoch } selfNaming (some 1)
    rawCell?_selfNaming isFormula_selfNaming isFirstColumn_selfNaming hname hwithin
    (by decide)
  rw [cellContext_eq, hvalue] at hshown
  rw [hvalue] at hproperty
  obtain ⟨shown, hcell, hdisplay, -⟩ := hshown rfl rfl
  exact ⟨hwithin, hproperty, shown, hcell, hdisplay⟩

/-- Read from the column next to it the same cell gives something else. -/
theorem property_ne_shown :
    selfNaming.rawCell? 0 1 = some "% columns[columnIndex]" ∧
      IsFirstColumn selfNaming.view.columns 1 "A" ∧
      Formula.IsWithin Formula.depthLimit (selfNaming.cellContext { today := .epoch } 0 1)
        "% columns[columnIndex]" ∧
      (Formula.evaluate (selfNaming.cellContext { today := .epoch } 0 1)
        "% columns[columnIndex]").result = .ok (.text "A") ∧
      Formula.property (selfNaming.rowContext { today := .epoch } 0 (some 2)) "A" =
        .ok (.text "B") := by
  have hown : Formula.evaluate (selfNaming.rowContext { today := .epoch } 0 (some 1))
      "% columns[columnIndex]" = { isFormula := true, value := .text "A" } :=
    evaluateAt_selfNaming { today := .epoch } (.inl ⟨rfl, rfl⟩) Formula.depthLimit
  have hname : sameName "A" "A" = true := by decide +kernel
  have hother : Formula.evaluate (selfNaming.rowContext { today := .epoch } 0 (some 2))
      "% columns[columnIndex]" = { isFormula := true, value := .text "B" } :=
    evaluateAt_selfNaming { today := .epoch } (.inr ⟨rfl, rfl⟩) Formula.depthLimit
  refine ⟨rawCell?_selfNaming, isFirstColumn_selfNaming,
    isWithin_selfNaming { today := .epoch } (.inl ⟨rfl, rfl⟩) 3, ?_, ?_⟩
  · rw [cellContext_eq, hown]
    rfl
  · rw [Formula.property, propertyWith_rowContext rawCell?_selfNaming isFormula_selfNaming
      isFirstColumn_selfNaming hname, hother]
    rfl

end Document

end FormulaSheet
