import FormulaSheet.Proofs.Document.Viewing
import FormulaSheet.Proofs.Table.Frame
import FormulaSheet.Proofs.Table.Names

/-!
What the press of a button changes. The function of the button leaves some value in the place of the
rows, of whatever kind; what counts of it is the text that it shows under the name of a column in
the place of a row (`leftText?`). A press writes such a text into the cell of the row whose column is
the first of its name, and into no other cell. But a row that is written ends with the header: what
it had beyond is gone (`press_loses_surplus_cell`).
-/

namespace FormulaSheet

namespace Formula

open Script

/-! ## What is left -/

/-- What is left in the place of a row. -/
def leftItem? (left : Value) (i : Nat) : Option Value :=
  match left with
  | .array items => items[i]?
  | _ => none

/-- The values that an item holds, if it is a map with a map of values. -/
def valuesIn? (item : Option Value) : Option (List (String × Value)) :=
  match item with
  | some (.map entries) =>
    match Entries.get? entries "values" with
    | some (.map values) => some values
    | _ => none
  | _ => none

/-- The text that is left under a name in the place of a row. -/
def leftText? (left : Value) (i : Nat) (name : String) : Option String :=
  (valuesIn? (leftItem? left i)).bind fun values => (Entries.get? values name).map Value.shown

variable {columns cells : List String} {left : Value} {name : String} {i j : Nat}

theorem getElem?_rowsAfter (columns : List String) (left : Value) (rows : List Fields) (i : Nat) :
    (rowsAfter columns left rows)[i]? =
      rows[i]?.map (rowAfter columns (leftItem? left i)) := by
  unfold rowsAfter leftItem?
  rw [List.getElem?_map, List.getElem?_zipIdx, Option.map_map]
  cases left <;> simp [Function.comp_def]

theorem rowAfter_eq (columns : List String) (item : Option Value) (former : Fields) :
    rowAfter columns item former =
      ((valuesIn? item).map fun values => Fields.ofMap columns values former).getD former := by
  unfold rowAfter valuesIn?
  cases item with
  | none => rfl
  | some v =>
    cases v with
    | map entries =>
      dsimp only
      cases Entries.get? entries "values" with
      | none => rfl
      | some w => cases w <;> rfl
    | _ => rfl

theorem ofMap_eq (columns : List String) (entries : List (String × Value)) (former : Fields) :
    Fields.ofMap columns entries former = .ofList (columns.map fun name =>
      (name, ((Entries.get? entries name).map Value.shown).getD ((former.get? name).getD ""))) := by
  unfold Fields.ofMap
  congr 1
  apply List.map_congr_left
  intro name _
  cases Entries.get? entries name <;> rfl

theorem names_rowAfter (columns cells : List String) (item : Option Value) :
    (rowAfter columns item (.ofRow columns cells)).names = columns.eraseDups := by
  rw [rowAfter_eq]
  cases valuesIn? item with
  | none => exact Fields.names_ofRow columns cells
  | some values =>
    rw [Option.map_some, Option.getD_some, ofMap_eq, Fields.names_ofList]
    simp [Function.comp_def]

/-- A row takes over the texts that are left in its place. -/
theorem get?_rowAfter (hcolumn : columns[j]? = some name) (hfirst : name ∉ columns.take j)
    (left : Value) (i : Nat) (cells : List String) :
    (rowAfter columns (leftItem? left i) (.ofRow columns cells)).get? name =
      some ((leftText? left i name).getD (cells.getD j "")) := by
  have hformer := @Fields.get?_ofRow_of_first columns cells j name hcolumn hfirst
  rw [rowAfter_eq, leftText?]
  cases valuesIn? (leftItem? left i) with
  | none => exact hformer
  | some values =>
    have hmem : name ∈ columns := List.mem_of_getElem? hcolumn
    rw [Option.map_some, Option.getD_some, ofMap_eq, Fields.get?_ofList_map hmem, hformer]
    rfl

/-! ## Texts for cells -/

/-- The text that is left for a cell: what is left under the name of its column, if no column before
has that name. -/
def textFor? (columns : List String) (left : Value) (i j : Nat) : Option String :=
  columns[j]?.bind fun name => if name ∈ columns.take j then none else leftText? left i name

/-- Whether for some cell of a row another text is left than it has. -/
def isOtherwise (columns : List String) (left : Value) (i : Nat) (cells : List String) : Bool :=
  (List.range columns.length).any fun j => (textFor? columns left i j).any (· != cells.getD j "")

/-- What becomes of a row: if it changes, it takes the texts that are left and ends with the
header. -/
def rowLeft (columns : List String) (left : Value) (i : Nat) (cells : List String) : List String :=
  if isOtherwise columns left i cells then
    (List.range columns.length).map fun j => (textFor? columns left i j).getD (cells.getD j "")
  else cells

theorem textFor?_of_first (hcolumn : columns[j]? = some name) (hfirst : name ∉ columns.take j)
    (left : Value) (i : Nat) : textFor? columns left i j = leftText? left i name := by
  rw [textFor?, hcolumn, Option.bind_some, if_neg hfirst]

theorem isOtherwise_iff : isOtherwise columns left i cells = true ↔
    ∃ j text, textFor? columns left i j = some text ∧ text ≠ cells.getD j "" := by
  simp only [isOtherwise, List.any_eq_true, List.mem_range, Option.any_eq_true, bne_iff_ne]
  constructor
  · rintro ⟨j, -, text, htext, hother⟩
    exact ⟨j, text, htext, hother⟩
  · rintro ⟨j, text, htext, hother⟩
    refine ⟨j, ?_, text, htext, hother⟩
    obtain ⟨name, hcolumn, -⟩ := Option.bind_eq_some_iff.mp htext
    exact (List.getElem?_eq_some_iff.mp hcolumn).1

theorem toRow_rowAfter (columns : List String) (left : Value) (i : Nat) (cells : List String) :
    (rowAfter columns (leftItem? left i) (.ofRow columns cells)).toRow columns cells =
      (List.range columns.length).map fun j =>
        (textFor? columns left i j).getD (cells.getD j "") := by
  apply List.ext_getElem?
  intro j
  rw [Fields.getElem?_toRow, List.getElem?_map]
  by_cases hlt : j < columns.length
  · have hcolumn := List.getElem?_eq_getElem hlt
    rw [List.getElem?_range hlt, hcolumn, Option.map_some, Option.map_some]
    by_cases hfirst : columns[j] ∈ columns.take j
    · rw [if_pos hfirst, textFor?, hcolumn, Option.bind_some, if_pos hfirst, Option.getD_none]
    · rw [if_neg hfirst, get?_rowAfter hcolumn hfirst, textFor?_of_first hcolumn hfirst]
      rfl
  · rw [List.getElem?_eq_none (by omega), List.getElem?_eq_none (by simpa using hlt)]
    rfl

/-- The fields of a row change when for some cell another text is left. -/
theorem rowAfter_eq_iff (columns cells : List String) (left : Value) (i : Nat) :
    rowAfter columns (leftItem? left i) (.ofRow columns cells) = .ofRow columns cells ↔
      isOtherwise columns left i cells = false := by
  rw [← Bool.not_eq_true, isOtherwise_iff]
  constructor
  · rintro heq ⟨j, text, htext, hother⟩
    obtain ⟨name, hcolumn, hleft⟩ := Option.bind_eq_some_iff.mp htext
    by_cases hfirst : name ∈ columns.take j
    · simp [hfirst] at hleft
    · rw [if_neg hfirst] at hleft
      have hget := get?_rowAfter hcolumn hfirst left i cells
      rw [heq, Fields.get?_ofRow_of_first hcolumn hfirst, hleft] at hget
      exact hother (Option.some.inj hget).symm
  · intro hnone
    have hnames := Fields.names_ofRow columns cells
    refine Fields.ext_of_get? ((names_rowAfter columns cells _).trans hnames.symm) ?_
      fun name hname => ?_
    · rw [names_rowAfter, ← hnames]
      exact Fields.nodup_names_ofList _
    · rw [names_rowAfter, List.mem_eraseDups] at hname
      obtain ⟨j, hcolumn, hfirst⟩ := Fields.exists_first hname
      rw [get?_rowAfter hcolumn hfirst, Fields.get?_ofRow_of_first hcolumn hfirst]
      cases hleft : leftText? left i name with
      | none => rfl
      | some text =>
        have htext := (textFor?_of_first hcolumn hfirst left i).trans hleft
        have hsame : text = cells.getD j "" :=
          Decidable.byContradiction fun hother => hnone ⟨j, text, htext, hother⟩
        rw [hsame]
        rfl

end Formula

/-! ## Rows of the body -/

namespace Grid

theorem getElem?_body (g : Grid) (i : Nat) :
    g.body[i]? = if i < g.bodySize then g[i + 1]?.map (padRow g.width) else none := by
  rw [body, List.getElem?_map, getElem?_bodyRows]
  split <;> rfl

theorem footer_eq (g : Grid) : g.footer =
    if g.length ≤ 1 then [] else padRow g.columns.length (g[g.length - 1]?.getD []) := by
  rw [footer, List.getLastD_eq_getLast?, List.getLast?_eq_getElem?]
  rfl

end Grid

namespace Document

open Script Formula

variable {columns : List String} {changes : List (Nat × Fields)} {g : Grid} {i k : Nat}
  {f : Fields}

theorem length_writeRows (columns : List String) (changes : List (Nat × Fields)) (g : Grid) :
    (writeRows columns changes g).length = g.length := by
  induction changes generalizing g with
  | nil => rfl
  | cons p changes ih => exact (ih _).trans (List.length_modify _ _ _)

theorem columns_writeRows (columns : List String) (changes : List (Nat × Fields)) (g : Grid) :
    (writeRows columns changes g).columns = g.columns := by
  induction changes generalizing g with
  | nil => rfl
  | cons p changes ih => exact (ih _).trans (Grid.columns_modify_succ g p.1 _)

/-- Rows that no change is for stay. -/
theorem getElem?_writeRows_of_ne (h : ∀ p ∈ changes, p.1 + 1 ≠ k) :
    (writeRows columns changes g)[k]? = g[k]? := by
  induction changes generalizing g with
  | nil => rfl
  | cons p changes ih =>
    obtain ⟨hp, hrest⟩ := List.forall_mem_cons.mp h
    show (writeRows columns changes _)[k]? = _
    rw [ih hrest, List.getElem?_modify_ne _ _ hp]

theorem getElem?_writeRows_of_mem (hdistinct : changes.Pairwise fun p q => p.1 ≠ q.1)
    (h : (i, f) ∈ changes) :
    (writeRows columns changes g)[i + 1]? = g[i + 1]?.map (writeFields columns f) := by
  induction changes generalizing g with
  | nil => cases h
  | cons p changes ih =>
    obtain ⟨hp, hrest⟩ := List.pairwise_cons.mp hdistinct
    show (writeRows columns changes _)[i + 1]? = _
    rcases List.mem_cons.mp h with rfl | h
    · rw [getElem?_writeRows_of_ne fun q hq heq => hp q hq (Nat.succ.inj heq).symm]
      exact List.getElem?_modify_eq _ _ _
    · have hne : p.1 + 1 ≠ i + 1 := fun heq => hp _ h (Nat.succ.inj heq)
      rw [ih hrest h, List.getElem?_modify_ne _ _ hne]

/-- Fields are written under the header, and nothing is beyond them. -/
theorem padRow_writeFields (columns : List String) (f : Fields) (row : List String) :
    padRow columns.length (writeFields columns f row) =
      f.toRow columns (padRow columns.length row) := by
  have hlength : (writeFields columns f row).length = columns.length := Fields.length_toRow _ _ _
  rw [padRow, hlength, Nat.sub_self, List.replicate_zero, List.append_nil]
  rfl

/-- Header and footer stay when rows of the body are written, and so do the rows that nothing is
written into. -/
theorem view_writeRows (hdistinct : changes.Pairwise fun p q => p.1 ≠ q.1)
    (hbody : ∀ p ∈ changes, p.1 < g.bodySize) :
    let written := writeRows g.columns changes g
    written.columns = g.columns ∧ written.footer = g.footer ∧
      (∀ i f, (i, f) ∈ changes → written.body[i]? = g.body[i]?.map (f.toRow g.columns)) ∧
      ∀ i, (∀ p ∈ changes, p.1 ≠ i) → written.body[i]? = g.body[i]? := by
  intro written
  have hlength : written.length = g.length := length_writeRows _ _ _
  have hsize : written.bodySize = g.bodySize := congrArg (· - 2) hlength
  have hcolumns : written.columns = g.columns := columns_writeRows _ _ _
  have hwidth : written.width = g.width := congrArg List.length hcolumns
  refine ⟨hcolumns, ?_, fun i f hmem => ?_, fun i hnone => ?_⟩
  · have hfooter : written[g.length - 1]? = g[g.length - 1]? := by
      refine getElem?_writeRows_of_ne fun p hp => ?_
      have hlt := hbody p hp
      unfold Grid.bodySize at hlt
      omega
    rw [written.footer_eq, g.footer_eq, hcolumns, hlength, hfooter]
  · rw [Grid.getElem?_body, Grid.getElem?_body, hsize, hwidth,
      getElem?_writeRows_of_mem hdistinct hmem]
    simp only [if_pos (hbody _ hmem), Option.map_map]
    exact congrArg (Option.map · g[i + 1]?) (funext (padRow_writeFields g.columns f))
  · rw [Grid.getElem?_body, Grid.getElem?_body, hsize, hwidth,
      getElem?_writeRows_of_ne fun p hp heq => hnone p hp (Nat.succ.inj heq)]

/-! ## Rows that change -/

theorem changedRows_pairwise (before after : List Fields) :
    (changedRows before after).Pairwise fun p q => p.1 ≠ q.1 := by
  have hplaces : (before.zip after).zipIdx.Pairwise fun p q => p.2 ≠ q.2 := by
    have hnodup : ((before.zip after).zipIdx.map Prod.snd).Nodup := by
      rw [List.zipIdx_map_snd]
      exact List.nodup_range'
    exact List.pairwise_map.mp hnodup
  unfold changedRows
  rw [List.pairwise_filterMap]
  refine hplaces.imp fun {p q} hne => ?_
  have hplace (p : (Fields × Fields) × Nat) (c : Nat × Fields)
      (h : (if p.1.2 = p.1.1 then none else some (p.2, p.1.2)) = some c) : c.1 = p.2 := by
    split at h
    · cases h
    · cases h
      rfl
  intro b hb c hc
  rw [hplace p b hb, hplace q c hc]
  exact hne

theorem length_changedRows (before after : List Fields) :
    (changedRows before after).length = (before.zip after).countP fun p => p.2 ≠ p.1 := by
  have hplaces : (before.zip after) = (before.zip after).zipIdx.map Prod.fst := by simp
  unfold changedRows
  rw [hplaces, List.countP_map, ← hplaces, List.length_filterMap_eq_countP]
  congr 1
  funext p
  by_cases hsame : p.1.2 = p.1.1 <;> simp [hsame]

/-! ## Pressing -/

variable {d d' : Document} {o : Outlook} {row column count : Nat}

theorem allFields_zip_rowsAfter (v : View) (left : Value) :
    v.allFields.zip (rowsAfter v.columns left v.allFields) = v.body.zipIdx.map fun p =>
      (.ofRow v.columns p.1, rowAfter v.columns (leftItem? left p.2) (.ofRow v.columns p.1)) := by
  have hbefore : v.allFields = v.body.zipIdx.map fun p => .ofRow v.columns p.1 := by
    apply List.ext_getElem?
    intro i
    simp [View.allFields, Function.comp_def]
  have hafter : rowsAfter v.columns left v.allFields = v.body.zipIdx.map fun p =>
      rowAfter v.columns (leftItem? left p.2) (.ofRow v.columns p.1) := by
    apply List.ext_getElem?
    intro i
    simp [getElem?_rowsAfter, View.allFields, Function.comp_def]
  rw [hafter, hbefore, List.zip_map']

/-- As many rows change as have a cell for which another text is left. -/
theorem length_changedRows_rowsAfter (v : View) (left : Value) :
    (changedRows v.allFields (rowsAfter v.columns left v.allFields)).length =
      v.body.zipIdx.countP fun p => isOtherwise v.columns left p.2 p.1 := by
  rw [length_changedRows, allFields_zip_rowsAfter, List.countP_map]
  congr 1
  funext p
  have hiff := rowAfter_eq_iff v.columns p.1 left p.2
  cases hother : isOtherwise v.columns left p.2 p.1 with
  | true => simp [hiff, hother]
  | false => simp [hiff.mpr hother]

theorem mem_changedRows_rowsAfter (v : View) (left : Value) :
    (i, f) ∈ changedRows v.allFields (rowsAfter v.columns left v.allFields) ↔
      ∃ cells, v.body[i]? = some cells ∧ isOtherwise v.columns left i cells = true ∧
        f = rowAfter v.columns (leftItem? left i) (.ofRow v.columns cells) := by
  rw [mem_changedRows, getElem?_rowsAfter, View.allFields, List.getElem?_map]
  cases v.body[i]? with
  | none => simp
  | some cells =>
    have hiff := rowAfter_eq_iff v.columns cells left i
    simp only [Option.map_some, Option.some.injEq, exists_eq_left']
    constructor
    · rintro ⟨rfl, hne⟩
      exact ⟨eq_true_of_ne_false (mt hiff.mpr hne), rfl⟩
    · rintro ⟨hother, rfl⟩
      refine ⟨rfl, fun heq => ?_⟩
      rw [hiff.mp heq] at hother
      cases hother

/-- Written into the grid, what is left changes the view in the rows for which another text is
left. -/
theorem view_writeRows_changedRows (left : Value) (g : Grid) :
    let v := View.ofGrid g
    let changes := changedRows v.allFields (rowsAfter v.columns left v.allFields)
    View.ofGrid (writeRows v.columns changes g) =
      { v with body := v.body.mapIdx (rowLeft v.columns left) } := by
  intro v changes
  have hmem {i : Nat} {f : Fields} : (i, f) ∈ changes ↔ _ := mem_changedRows_rowsAfter v left
  have hbody (p) (hp : p ∈ changes) : p.1 < g.bodySize := by
    obtain ⟨cells, hcells, -⟩ := hmem.mp hp
    exact g.length_body ▸ (List.getElem?_eq_some_iff.mp hcells).1
  obtain ⟨hcolumns, hfooter, hwritten, hstay⟩ :=
    view_writeRows (changedRows_pairwise _ _) hbody
  have hrows : (writeRows v.columns changes g).body = v.body.mapIdx (rowLeft v.columns left) := by
    apply List.ext_getElem?
    intro i
    rw [List.getElem?_mapIdx]
    have hsame (h : ∀ cells ∈ v.body[i]?, isOtherwise v.columns left i cells = false) :
        (writeRows v.columns changes g).body[i]? = v.body[i]? := by
      refine hstay i fun p hp hi => ?_
      obtain ⟨cells, hcells, hother, -⟩ := hmem.mp (hi ▸ hp : (i, p.2) ∈ changes)
      cases (h cells hcells).symm.trans hother
    cases hcells : v.body[i]? with
    | none => exact (hsame (by simp [hcells])).trans hcells
    | some cells =>
      cases hother : isOtherwise v.columns left i cells with
      | true =>
        refine (hwritten i _ (hmem.mpr ⟨cells, hcells, hother, rfl⟩)).trans ?_
        rw [show g.body[i]? = some cells from hcells, Option.map_some, Option.map_some, rowLeft,
          if_pos hother]
        exact congrArg some (toRow_rowAfter v.columns left i cells)
      | false =>
        have hkept : rowLeft v.columns left i cells = cells := by simp [rowLeft, hother]
        rw [Option.map_some, hkept]
        exact (hsame (by simp [hcells, hother])).trans hcells
  rw [View.ofGrid, hrows, View.mk.injEq]
  exact ⟨hcolumns, rfl, hfooter⟩

/-- A press writes the texts that the function of the button has left for the cells, and gives how
many rows this changes. -/
theorem press_writes_what_is_left (h : (d.pressButton o row column).1 = .ok (count, d')) :
    ∃ left, d.Leaves o row column left ∧
      d'.view = { d.view with body := d.view.body.mapIdx (rowLeft d.view.columns left) } ∧
      count = (d.view.body.zipIdx.countP fun p => isOtherwise d.view.columns left p.2 p.1) ∧
      (count = 0 → d' = d) := by
  obtain ⟨left, hleaves, hpressed⟩ := pressButton_eq_ok h
  have hcount := length_changedRows_rowsAfter d.view left
  have hview : View.ofGrid (writeRows d.view.columns (changedRows d.view.allFields
      (rowsAfter d.view.columns left d.view.allFields)) d.grid) = _ :=
    view_writeRows_changedRows left d.grid
  refine ⟨left, hleaves, ?_⟩
  rcases writeBack_cases (rowsAfter d.view.columns left d.view.allFields) d with
    ⟨hnone, hback⟩ | ⟨hsome, hback⟩
  · obtain ⟨rfl, rfl⟩ : 0 = count ∧ d = d' := Prod.mk.inj (hback.symm.trans hpressed)
    refine ⟨?_, ?_, fun _ => rfl⟩
    · rw [hnone, writeRows, List.foldl_nil] at hview
      exact hview
    · rw [← hcount, hnone]
      rfl
  · obtain ⟨rfl, rfl⟩ := Prod.mk.inj (hback.symm.trans hpressed)
    refine ⟨?_, hcount, fun hzero => absurd (List.length_eq_zero_iff.mp hzero) hsome⟩
    rw [view_replaceText_write, View.ofGrid_filled]
    · exact hview
    · rw [columns_writeRows]
      exact d.grid_columns_ne_nil

/-- A button that writes into the first column of its row. -/
def naming : String := "% button('name', |r, c, rows| \x7b rows[r].values.n = 'y' \x7d)"

/-- A table with the button under its second column, and a cell beyond the header in that row. -/
def surplus : Document := new defaultLimit (Csv.write [["n", "B"], ["x", naming, "z"], ["", ""]])

theorem view_surplus : surplus.view = ⟨["n", "B"], [["x", naming, "z"]], ["", ""]⟩ := by
  decide +kernel

theorem pressButton_surplus :
    ∃ d', (surplus.pressButton { today := Instant.epoch.day } 0 1).1 = .ok (1, d') ∧
      d'.view = ⟨["n", "B"], [["y", naming]], ["", ""]⟩ := by
  have hrun : (surplus.pressButton { today := Instant.epoch.day } 0 1).1.toOption.map
      (fun p => (p.1, p.2.view)) = some (1, ⟨["n", "B"], [["y", naming]], ["", ""]⟩) := by
    decide +kernel
  cases hpressed : (surplus.pressButton { today := Instant.epoch.day } 0 1).1 with
  | error e =>
    rw [hpressed] at hrun
    cases hrun
  | ok p =>
    rw [hpressed] at hrun
    obtain ⟨hcount, hview⟩ := Prod.mk.inj (Option.some.inj hrun)
    exact ⟨p.2, by rw [← hcount], hview⟩

theorem press_writes_what_is_left_surplus :
    ∃ d' left, (surplus.pressButton { today := Instant.epoch.day } 0 1).1 = .ok (1, d') ∧
      surplus.Leaves { today := Instant.epoch.day } 0 1 left ∧
      d'.view.body = [rowLeft ["n", "B"] left 0 ["x", naming, "z"]] := by
  obtain ⟨d', hpressed, -⟩ := pressButton_surplus
  obtain ⟨left, hleaves, hview, -⟩ := press_writes_what_is_left hpressed
  refine ⟨d', left, hpressed, hleaves, ?_⟩
  rw [hview, view_surplus]
  rfl

/-- The button changes the cell in its first column, and the cell beyond the header is gone. -/
theorem press_loses_surplus_cell :
    surplus.view.body = [["x", naming, "z"]] ∧
      ∃ d', (surplus.pressButton { today := Instant.epoch.day } 0 1).1 = .ok (1, d') ∧
        d'.view.body = [["y", naming]] := by
  obtain ⟨d', hpressed, hview⟩ := pressButton_surplus
  exact ⟨by rw [view_surplus], d', hpressed, by rw [hview]⟩

end Document

end FormulaSheet
