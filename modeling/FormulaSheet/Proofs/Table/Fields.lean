import FormulaSheet.Table.Fields
import Mathlib.Data.List.Induction

/-!
Fields of a row under its columns: a column that is the first of its name gives the field of that
name, and it is the one that is found by the name.
-/

namespace FormulaSheet

/-- A column that no column before it has the name of, ignoring case. -/
structure IsFirstColumn (columns : List String) (j : Nat) (column : String) : Prop where
  here : columns[j]? = some column
  first : ∀ k < j, ∀ other, columns[k]? = some other → sameName other column = false

theorem sameName_congr {a b : String} (h : sameName a b = true) (c : String) :
    sameName c a = sameName c b := by
  simp only [sameName, beq_iff_eq] at h
  rw [sameName, sameName, h]

theorem IsFirstColumn.find? {columns : List String} {j : Nat} {column name : String}
    (h : IsFirstColumn columns j column) (hname : sameName column name = true) :
    columns.find? (fun other => sameName other name) = some column := by
  obtain ⟨hlt, hget⟩ := List.getElem?_eq_some_iff.mp h.here
  refine List.find?_eq_some_iff_getElem.mpr ⟨hname, j, hlt, hget, fun k hk => ?_⟩
  have hother := h.first k hk _ (List.getElem?_eq_getElem (by omega))
  rw [← sameName_congr hname, hother]
  rfl

namespace Fields

theorem get?_insertIfNew (f : Fields) (key value name : String) :
    (f.insertIfNew key value).get? name =
      (f.get? name).or (if key == name then some value else none) := by
  unfold insertIfNew
  split
  · rename_i hkey
    by_cases hname : key = name
    · -- the name is taken
      subst hname
      have hsome : (f.get? key).isSome := by
        simpa [get?, contains, List.find?_isSome] using hkey
      obtain ⟨v, hv⟩ := Option.isSome_iff_exists.mp hsome
      simp [hv]
    · simp [hname]
  · simp only [get?, List.find?_append, Option.map_or]
    congr 1
    by_cases hname : key == name
    · simp [hname]
    · simp [hname]

theorem ofList_concat (pairs : List (String × String)) (p : String × String) :
    ofList (pairs ++ [p]) = (ofList pairs).insertIfNew p.1 p.2 :=
  List.foldl_append

theorem get?_ofList (pairs : List (String × String)) (name : String) :
    (ofList pairs).get? name = (pairs.find? fun p => p.1 == name).map Prod.snd := by
  induction pairs using List.reverseRecOn with
  | nil => rfl
  | append_singleton pairs p ih =>
    rw [ofList_concat, get?_insertIfNew, ih, List.find?_append, Option.map_or]
    by_cases hname : p.1 = name
    · simp [hname]
    · simp [beq_false_of_ne hname]

/-- The field of a name is the cell of the first column of that name. -/
theorem get?_ofRow_of_first {columns row : List String} {j : Nat} {column : String}
    (hcolumn : columns[j]? = some column) (hfirst : column ∉ columns.take j) :
    (ofRow columns row).get? column = some (row.getD j "") := by
  obtain ⟨hlt, hget⟩ := List.getElem?_eq_some_iff.mp hcolumn
  have hfind : columns.zipIdx.find? (fun c => c.1 == column) = some (column, j) := by
    refine List.find?_eq_some_iff_getElem.mpr ⟨by simp, j, by simpa using hlt, by simp [hget], ?_⟩
    intro k hk
    have hne : columns[k] ≠ column := by
      rintro rfl
      exact hfirst (List.mem_take_iff_getElem.mpr ⟨k, by omega, rfl⟩)
    simp [hne]
  rw [ofRow, get?_ofList, List.find?_map]
  simp only [Function.comp_def, hfind, Option.map_some]

theorem get?_ofRow {columns row : List String} {j : Nat} {column : String}
    (h : IsFirstColumn columns j column) :
    (ofRow columns row).get? column = some (row.getD j "") := by
  refine get?_ofRow_of_first h.here fun hmem => ?_
  -- an equal name would be the same when case is ignored
  obtain ⟨k, hk, heq⟩ := List.mem_take_iff_getElem.mp hmem
  have hother := h.first k (by omega) _ (List.getElem?_eq_getElem (by omega))
  rw [heq] at hother
  simp [sameName] at hother

end Fields

end FormulaSheet
