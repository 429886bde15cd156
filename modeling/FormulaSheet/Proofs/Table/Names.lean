import FormulaSheet.Proofs.Table.Fields

/-!
Names of fields. No name stands twice among the fields that are made of a list of pairs, and which
names these are depends on the names in the list alone. So two rows of fields under the same columns
are equal when under every column they hold the same. Laid out under its columns, a row of fields
gives every cell whose column is the first of its name.
-/

namespace FormulaSheet.Fields

variable {f g : Fields} {name : String}

/-- The names of the fields, in their order. -/
def names (f : Fields) : List String := f.entries.map Prod.fst

theorem contains_iff : f.contains name = true ↔ name ∈ f.names := by
  simp [contains, names]

theorem names_insertIfNew (f : Fields) (name value : String) :
    (f.insertIfNew name value).names = if name ∈ f.names then f.names else f.names ++ [name] := by
  unfold insertIfNew
  by_cases h : name ∈ f.names
  · rw [if_pos (contains_iff.mpr h), if_pos h]
  · rw [if_neg (mt contains_iff.mp h), if_neg h]
    simp [names]

theorem nodup_names_insertIfNew (h : f.names.Nodup) (name value : String) :
    (f.insertIfNew name value).names.Nodup := by
  rw [names_insertIfNew]
  split
  · exact h
  · rename_i hname
    rw [List.nodup_append]
    refine ⟨h, by simp, fun a ha b hb => ?_⟩
    rw [List.mem_singleton.mp hb]
    rintro rfl
    exact hname ha

theorem nodup_names_ofList (pairs : List (String × String)) : (ofList pairs).names.Nodup := by
  induction pairs using List.reverseRecOn with
  | nil => exact List.nodup_nil
  | append_singleton pairs p ih =>
    rw [ofList_concat]
    exact nodup_names_insertIfNew ih p.1 p.2

/-- Of the fields of one name the first is taken. -/
theorem names_ofList (pairs : List (String × String)) :
    (ofList pairs).names = (pairs.map Prod.fst).eraseDups := by
  induction pairs using List.reverseRecOn with
  | nil => rfl
  | append_singleton pairs p ih =>
    rw [ofList_concat, names_insertIfNew, ih, List.map_append, List.eraseDups_append]
    by_cases hname : p.1 ∈ pairs.map Prod.fst
    · rw [if_pos (List.mem_eraseDups.mpr hname)]
      simp [List.removeAll, hname]
    · rw [if_neg (mt List.mem_eraseDups.mp hname)]
      simp [List.removeAll, hname, List.eraseDups_cons]

/-- Fields of the same names are equal when they hold the same. -/
theorem ext_of_get? (hnames : f.names = g.names) (hnodup : f.names.Nodup)
    (hget : ∀ name ∈ f.names, f.get? name = g.get? name) : f = g := by
  have hlist : ∀ es es' : List (String × String), es.map Prod.fst = es'.map Prod.fst →
      (es.map Prod.fst).Nodup →
      (∀ name ∈ es.map Prod.fst, get? ⟨es⟩ name = get? ⟨es'⟩ name) → es = es' := by
    intro es
    induction es with
    | nil => exact fun es' heq _ _ => (List.map_eq_nil_iff.mp heq.symm).symm
    | cons e es ih =>
      intro es' heq hnodup hget
      cases es' with
      | nil => cases heq
      | cons e' es' =>
        obtain ⟨hhead, htail⟩ := List.cons.inj heq
        obtain ⟨hnew, hnodup⟩ := List.nodup_cons.mp hnodup
        have hvalue : e.2 = e'.2 := by simpa [get?, ← hhead] using hget e.1 (by simp)
        obtain rfl : e = e' := Prod.ext hhead hvalue
        refine congrArg (e :: ·) (ih es' htail hnodup fun name hname => ?_)
        have hother : e.1 ≠ name := by
          rintro rfl
          exact hnew hname
        simpa [get?, hother] using hget name (List.mem_cons_of_mem _ hname)
  exact congrArg Fields.mk (hlist f.entries g.entries hnames hnodup hget)

theorem get?_ofList_map {columns : List String} (h : name ∈ columns) (value : String → String) :
    (ofList (columns.map fun column => (column, value column))).get? name = some (value name) := by
  rw [get?_ofList, List.find?_map, Option.map_map]
  cases hfind : columns.find? ((fun p => p.1 == name) ∘ fun column => (column, value column)) with
  | none => simpa using List.find?_eq_none.mp hfind name h
  | some column =>
    have hname : column = name := by simpa using List.find?_some hfind
    simp [hname]

/-! ## Rows -/

variable {columns row : List String}

theorem names_ofRow (columns row : List String) : (ofRow columns row).names = columns.eraseDups := by
  rw [ofRow, names_ofList]
  congr 1
  simp [Function.comp_def]

/-- Where a name stands first. -/
theorem exists_first (h : name ∈ columns) :
    ∃ j, columns[j]? = some name ∧ name ∉ columns.take j := by
  induction columns with
  | nil => cases h
  | cons column columns ih =>
    by_cases hname : column = name
    · exact ⟨0, by simp [hname], List.not_mem_nil⟩
    · obtain ⟨j, hj, hfirst⟩ := ih ((List.mem_cons.mp h).resolve_left fun heq => hname heq.symm)
      refine ⟨j + 1, hj, ?_⟩
      rw [List.take_succ_cons, List.mem_cons, not_or]
      exact ⟨fun heq => hname heq.symm, hfirst⟩

theorem getElem?_toRow (f : Fields) (columns former : List String) (j : Nat) :
    (f.toRow columns former)[j]? = columns[j]?.map fun name =>
      if name ∈ columns.take j then former.getD j ""
      else (f.get? name).getD (former.getD j "") := by
  unfold toRow
  rw [List.getElem?_map, List.getElem?_zipIdx]
  cases columns[j]? <;> simp

theorem length_toRow (f : Fields) (columns former : List String) :
    (f.toRow columns former).length = columns.length := by
  simp [toRow]

end FormulaSheet.Fields
