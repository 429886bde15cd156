import FormulaSheet.Proofs.Table.Names
import FormulaSheet.Query.Selection

/-!
Which cell a name reads. A property is found in two steps: the first column whose name is the same
when case is ignored, and then the field of exactly the name that this column has. Since fields
keep the first of equal names, both steps end at one place of the row, the least one whose column
has the name (`property_reads_least_cell`). Filters and sort keys look the column up beforehand and
come to the same place.
-/

namespace FormulaSheet

/-- The least place of a column of a name, when case is ignored. -/
structure IsLeastNamed (columns : List String) (name : String) (k : Nat) : Prop where
  named : ∃ column, columns[k]? = some column ∧ sameName column name = true
  least : ∀ j < k, ∀ other, columns[j]? = some other → sameName other name = false

variable {columns row : List String} {name column : String} {k : Nat}

theorem IsLeastNamed.isFirstColumn (h : IsLeastNamed columns name k)
    (hcolumn : columns[k]? = some column) (hname : sameName column name = true) :
    IsFirstColumn columns k column := by
  refine ⟨hcolumn, fun j hj other hother => ?_⟩
  rw [sameName_congr hname]
  exact h.least j hj other hother

/-- A name that some column has stands at a least place. -/
theorem exists_isLeastNamed (hmem : column ∈ columns) (hname : sameName column name = true) :
    ∃ k, IsLeastNamed columns name k := by
  induction columns with
  | nil => cases hmem
  | cons first rest ih =>
    cases hfirst : sameName first name with
    | true => exact ⟨0, ⟨first, rfl, hfirst⟩, fun j hj => absurd hj (Nat.not_lt_zero j)⟩
    | false =>
      have hrest : column ∈ rest := by
        refine (List.mem_cons.mp hmem).resolve_left ?_
        rintro rfl
        rw [hname] at hfirst
        cases hfirst
      obtain ⟨k, hk⟩ := ih hrest
      refine ⟨k + 1, hk.named, fun j hj other hother => ?_⟩
      cases j with
      | zero =>
        obtain rfl : first = other := Option.some.inj hother
        exact hfirst
      | succ j => exact hk.least j (by omega) other hother

namespace Fields

/-- Looking for a field by its name is looking among all pairs that the fields were made of. -/
theorem find?_ofList (wanted : String → Bool) (pairs : List (String × String)) :
    (ofList pairs).entries.find? (fun e => wanted e.1) = pairs.find? fun e => wanted e.1 := by
  induction pairs using List.reverseRecOn with
  | nil => rfl
  | append_singleton pairs p ih =>
    rw [ofList_concat, List.find?_append, ← ih]
    unfold insertIfNew
    split
    · rename_i htaken
      -- the field that is there already is found if the new one would be
      cases hp : wanted p.1 with
      | false => simp [hp]
      | true =>
        obtain ⟨e, he, hname⟩ := List.mem_map.mp (contains_iff.mp htaken)
        have hsome : ((ofList pairs).entries.find? fun e => wanted e.1).isSome := by
          refine List.find?_isSome.mpr ⟨e, he, ?_⟩
          rw [hname, hp]
        obtain ⟨found, hfound⟩ := Option.isSome_iff_exists.mp hsome
        rw [hfound]
        rfl
    · exact List.find?_append

theorem getIgnoringCase?_ofRow (h : IsLeastNamed columns name k)
    (hcolumn : columns[k]? = some column) (hname : sameName column name = true) :
    (ofRow columns row).getIgnoringCase? name = some (column, row.getD k "") := by
  obtain ⟨hlt, hget⟩ := List.getElem?_eq_some_iff.mp hcolumn
  have hfind : columns.zipIdx.find? (fun c => sameName c.1 name) = some (column, k) := by
    refine List.find?_eq_some_iff_getElem.mpr
      ⟨hname, k, by simpa using hlt, by simp [hget], fun j hj => ?_⟩
    have hother := h.least j hj _ (List.getElem?_eq_getElem (by omega))
    simp [hother]
  rw [getIgnoringCase?, ofRow, find?_ofList (fun other => sameName other name), List.find?_map]
  simp only [Function.comp_def, hfind, Option.map_some]

theorem getIgnoringCase?_ofRow_eq_none (h : ∀ column ∈ columns, sameName column name = false) :
    (ofRow columns row).getIgnoringCase? name = none := by
  rw [getIgnoringCase?, ofRow, find?_ofList (fun other => sameName other name)]
  refine List.find?_eq_none.mpr fun e he => ?_
  obtain ⟨c, hc, rfl⟩ := List.mem_map.mp he
  have hother := h c.1 (List.fst_mem_of_mem_zipIdx hc)
  simp [hother]

end Fields

variable {c : Context}

theorem Context.findColumn?_eq_none (h : ∀ column ∈ c.columns, sameName column name = false) :
    c.findColumn? name = none := by
  refine List.find?_eq_none.mpr fun column hcolumn => ?_
  simp [h column hcolumn]

/-- The row that properties are read from is the given one or, where none is given, the one at the
row index. -/
theorem Context.currentRow?_eq {fields : Fields}
    (h : c.row = some fields ∨ c.row = none ∧ c.rows[c.rowIndex.getD 0]? = some fields) :
    c.currentRow? = some fields := by
  unfold currentRow?
  rcases h with hrow | ⟨hrow, hplace⟩
  · rw [hrow]
  · rw [hrow]
    exact hplace

namespace Formula

/-- Looking for the name that was found finds the same column. -/
theorem rawProperty?_findColumn? (h : c.findColumn? name = some column) :
    rawProperty? c column = rawProperty? c name := by
  have hname : sameName column name = true :=
    List.find?_some (p := fun other => sameName other name) h
  have hsame : c.findColumn? column = c.findColumn? name := by
    simp only [Context.findColumn?, sameName_congr hname]
  rw [rawProperty?, rawProperty?, hsame]

/-- A name reads the cell at the least place whose column has it, ignoring case; a cell that the
row does not have is empty. So it is for properties, whether the row is given or stands at the row
index, for the fields of the row looked up ignoring case, and for the columns that filters and sort
keys find by the name. Where no column has the name, nothing is found. -/
theorem property_reads_least_cell (c : Context) (row : List String) (name : String)
    (hrow : c.row = some (.ofRow c.columns row) ∨
      c.row = none ∧ c.rows[c.rowIndex.getD 0]? = some (.ofRow c.columns row)) :
    (∀ k, IsLeastNamed c.columns name k →
      rawProperty? c name = some (.ofRow c.columns row, row.getD k "") ∧
      (Fields.ofRow c.columns row).getIgnoringCase? name =
        some (c.columns.getD k "", row.getD k "")) ∧
    ((¬ ∃ k, IsLeastNamed c.columns name k) →
      (∀ column ∈ c.columns, sameName column name = false) ∧
      rawProperty? c name = none ∧ property c name = .ok .null ∧
      (Fields.ofRow c.columns row).getIgnoringCase? name = none) ∧
    (∀ q : Query,
      (∀ f ∈ q.knownFilters c, rawProperty? c f.1 = rawProperty? c f.2.column) ∧
      ∀ s ∈ q.knownSorts c, ∃ key ∈ q.sorts, rawProperty? c s.1 = rawProperty? c key.column) := by
  have hcurrent := Context.currentRow?_eq hrow
  refine ⟨fun k hk => ?_, fun hnone => ?_, fun q => ⟨fun f hf => ?_, fun s hs => ?_⟩⟩
  · obtain ⟨column, hcolumn, hname⟩ := hk.named
    have hfirst := hk.isFirstColumn hcolumn hname
    have hfind : c.findColumn? name = some column := hfirst.find? hname
    constructor
    · rw [rawProperty?, hfind, hcurrent]
      simp only [Fields.get?_ofRow hfirst, Option.getD_some]
    · have hget : c.columns.getD k "" = column := by
        rw [List.getD_eq_getElem?_getD, hcolumn, Option.getD_some]
      rw [Fields.getIgnoringCase?_ofRow hk hcolumn hname, hget]
  · have hothers : ∀ column ∈ c.columns, sameName column name = false := by
      intro column hcolumn
      by_contra hname
      exact hnone (exists_isLeastNamed hcolumn (by simpa using hname))
    have hraw : rawProperty? c name = none := by
      rw [rawProperty?, Context.findColumn?_eq_none hothers]
    refine ⟨hothers, hraw, ?_, Fields.getIgnoringCase?_ofRow_eq_none hothers⟩
    rw [property, propertyWith, hraw]
  · obtain ⟨filter, -, hfound⟩ := List.mem_filterMap.mp hf
    obtain ⟨column, hcolumn, rfl⟩ := Option.map_eq_some_iff.mp hfound
    exact rawProperty?_findColumn? hcolumn
  · obtain ⟨key, hkey, hfound⟩ := List.mem_filterMap.mp hs
    obtain ⟨column, hcolumn, rfl⟩ := Option.map_eq_some_iff.mp hfound
    exact ⟨key, hkey, rawProperty?_findColumn? hcolumn⟩

/-- Of columns that differ in case alone, and of one that stands twice, the first one counts. -/
theorem property_reads_least_cell_repeated :
    rawProperty?
        { columns := ["id", "Done", "done", "Done"]
          rows := [.ofRow ["id", "Done", "done", "Done"] ["r", "1", "2", "3"]]
          rowIndex := some 0
          today := .epoch } "DONE" =
      some (.ofRow ["id", "Done", "done", "Done"] ["r", "1", "2", "3"], "1") := by
  have hleast : IsLeastNamed ["id", "Done", "done", "Done"] "DONE" 1 := by
    refine ⟨⟨"Done", rfl, by decide +kernel⟩, fun j hj other hother => ?_⟩
    obtain rfl : j = 0 := by omega
    obtain rfl : "id" = other := Option.some.inj hother
    decide +kernel
  exact ((property_reads_least_cell
    { columns := ["id", "Done", "done", "Done"]
      rows := [.ofRow ["id", "Done", "done", "Done"] ["r", "1", "2", "3"]]
      rowIndex := some 0
      today := .epoch } ["r", "1", "2", "3"] "DONE" (.inr ⟨rfl, rfl⟩)).1 1 hleast).1

end Formula

end FormulaSheet
