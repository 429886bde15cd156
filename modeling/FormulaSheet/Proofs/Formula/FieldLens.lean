import FormulaSheet.Proofs.Document.Pressing
import FormulaSheet.Proofs.Table.NewRows

/-!
Cells and fields. Fields that were read from a row are laid out as that row again, filled up to the
header (`toRow_ofRow`); fields that have the names of the header are read again from any row that
they were laid out over (`ofRow_toRow`) and from the map that scripts see of them (`ofMap_toMap`).
However fields come about, no name stands twice among them (`IsMade.nodup_names`), and what was set
last under a name is what they give (`get?_setAll`).
-/

namespace FormulaSheet

/-! ## Maps of scripts -/

namespace Script.Entries

theorem get?_cons (key : String) (v : Value) (entries : List (String × Value)) (name : String) :
    get? ((key, v) :: entries) name = if key = name then some v else get? entries name := by
  by_cases hname : key = name
  · simp [get?, hname]
  · simp [get?, hname]

theorem get?_insert (key : String) (v : Value) (entries : List (String × Value)) (name : String) :
    get? (insert key v entries) name = if key = name then some v else get? entries name := by
  induction entries with
  | nil => exact get?_cons key v [] name
  | cons e rest ih =>
    obtain ⟨k, w⟩ := e
    unfold insert
    split
    · exact get?_cons key v _ name
    · split
      · -- the key is there already
        rename_i heq
        subst heq
        rw [get?_cons, get?_cons]
        by_cases hname : key = name
        · simp [hname]
        · simp [hname]
      · rename_i hne
        rw [get?_cons, ih, get?_cons]
        by_cases hk : k = name
        · subst hk
          simp [hne]
        · simp [hk]

/-- Entries of different keys are all found in the map of them. -/
theorem get?_ofList {entries : List (String × Value)} (h : (entries.map Prod.fst).Nodup)
    (name : String) : get? (ofList entries) name = get? entries name := by
  induction entries using List.reverseRecOn with
  | nil => rfl
  | append_singleton entries e ih =>
    rw [List.map_append, List.nodup_append] at h
    have hconcat : ofList (entries ++ [e]) = insert e.1 e.2 (ofList entries) := List.foldl_append
    rw [hconcat, get?_insert, ih h.1]
    by_cases hname : e.1 = name
    · have hnone : entries.find? (fun p => p.1 == name) = none := by
        refine List.find?_eq_none.mpr fun p hp => ?_
        have hne := h.2.2 p.1 (List.mem_map_of_mem hp) e.1 (by simp)
        rw [← hname]
        simpa using hne
      simp [get?, hname, hnone]
    · simp [get?, hname]

end Script.Entries

namespace Fields

variable {columns row former : List String} {f : Fields} {name : String}

/-! ## Setting fields -/

theorem names_replace (name value : String) (entries : List (String × String)) :
    (replace name value entries).map Prod.fst = entries.map Prod.fst := by
  induction entries with
  | nil => rfl
  | cons e es ih =>
    unfold replace
    split
    · rfl
    · rw [List.map_cons, List.map_cons, ih]

/-- Setting a field changes the names as adding one does. -/
theorem names_set (f : Fields) (name value : String) :
    (f.set name value).names = if name ∈ f.names then f.names else f.names ++ [name] := by
  unfold set
  by_cases h : name ∈ f.names
  · rw [if_pos (contains_iff.mpr h), if_pos h]
    exact names_replace name value f.entries
  · rw [if_neg (mt contains_iff.mp h), if_neg h]
    simp [names]

theorem find?_replace_self (value : String) {entries : List (String × String)}
    (h : name ∈ entries.map Prod.fst) :
    (replace name value entries).find? (fun e => e.1 == name) = some (name, value) := by
  induction entries with
  | nil => cases h
  | cons e es ih =>
    by_cases hname : e.1 = name
    · simp [replace, hname]
    · have hmem : name ∈ es.map Prod.fst :=
        (List.mem_cons.mp h).resolve_left fun heq => hname heq.symm
      simp [replace, hname, ih hmem]

theorem find?_replace_of_ne {other : String} (hne : name ≠ other) (value : String)
    (entries : List (String × String)) :
    (replace name value entries).find? (fun e => e.1 == other) =
      entries.find? (fun e => e.1 == other) := by
  induction entries with
  | nil => rfl
  | cons e es ih =>
    by_cases hname : e.1 = name
    · simp [replace, hname, hne]
    · simp [replace, hname, List.find?_cons, ih]

theorem get?_set (f : Fields) (name value other : String) :
    (f.set name value).get? other = if name = other then some value else f.get? other := by
  unfold set
  by_cases h : name ∈ f.names
  · rw [if_pos (contains_iff.mpr h)]
    by_cases hname : name = other
    · subst hname
      simp [get?, find?_replace_self value h]
    · simp [get?, find?_replace_of_ne hname, hname]
  · rw [if_neg (mt contains_iff.mp h)]
    by_cases hname : name = other
    · subst hname
      have hnone : f.entries.find? (fun e => e.1 == name) = none := by
        refine List.find?_eq_none.mpr fun e he heq => h ?_
        rw [← beq_iff_eq.mp heq]
        exact List.mem_map_of_mem he
      simp [get?, hnone]
    · simp [get?, hname]

/-- Sets fields one after another. -/
def setAll (f : Fields) (writes : List (String × String)) : Fields :=
  writes.foldl (fun f w => f.set w.1 w.2) f

theorem setAll_concat (f : Fields) (writes : List (String × String)) (w : String × String) :
    f.setAll (writes ++ [w]) = (f.setAll writes).set w.1 w.2 :=
  List.foldl_append

/-- The value that is written last under a name. -/
def lastWritten? (writes : List (String × String)) (name : String) : Option String :=
  (writes.reverse.find? fun w => w.1 == name).map Prod.snd

/-- A field has the value that was set last, and the one from before where none was set. -/
theorem get?_setAll (f : Fields) (writes : List (String × String)) (name : String) :
    (f.setAll writes).get? name = (lastWritten? writes name).or (f.get? name) := by
  induction writes using List.reverseRecOn with
  | nil => rfl
  | append_singleton writes w ih =>
    rw [setAll_concat, get?_set, ih]
    by_cases hname : w.1 = name
    · simp [lastWritten?, hname]
    · simp [lastWritten?, hname]

theorem eraseDups_of_nodup {names : List String} (h : names.Nodup) : names.eraseDups = names := by
  induction names with
  | nil => rfl
  | cons name names ih =>
    obtain ⟨hnew, hnodup⟩ := List.nodup_cons.mp h
    have hfilter : names.filter (fun other => !other == name) = names := by
      refine List.filter_eq_self.mpr fun other hother => ?_
      have hne : other ≠ name := fun heq => hnew (heq ▸ hother)
      simpa using hne
    rw [List.eraseDups_cons, hfilter, ih hnodup]

/-- Names that are new stand behind the others in the order in which they were set. -/
theorem names_setAll (h : f.names.Nodup) (writes : List (String × String)) :
    (f.setAll writes).names = (f.names ++ writes.map Prod.fst).eraseDups := by
  induction writes using List.reverseRecOn with
  | nil =>
    rw [List.map_nil, List.append_nil]
    exact (eraseDups_of_nodup h).symm
  | append_singleton writes w ih =>
    have hconcat : f.names ++ (writes ++ [w]).map Prod.fst =
        f.names ++ writes.map Prod.fst ++ [w.1] := by simp
    rw [setAll_concat, names_set, ih, hconcat]
    generalize f.names ++ writes.map Prod.fst = taken
    have hdups : (taken ++ [w.1]).eraseDups =
        taken.eraseDups ++ ([w.1].removeAll taken).eraseDups := List.eraseDups_append
    rw [hdups]
    by_cases hname : w.1 ∈ taken
    · rw [if_pos (List.mem_eraseDups.mpr hname)]
      simp [List.removeAll, hname]
    · rw [if_neg (mt List.mem_eraseDups.mp hname)]
      simp [List.removeAll, hname, List.eraseDups_cons]

/-- Fields as they come about: under the columns of a row, from a list of pairs, from a map that a
script has left, or by setting a field. -/
inductive IsMade : Fields → Prop
  | ofRow (columns row : List String) : IsMade (ofRow columns row)
  | ofList (pairs : List (String × String)) : IsMade (ofList pairs)
  | ofMap (columns : List String) (entries : List (String × Script.Value)) (former : Fields) :
      IsMade (ofMap columns entries former)
  | set {f : Fields} (name value : String) : IsMade f → IsMade (f.set name value)

/-- No name stands twice among fields. -/
theorem IsMade.nodup_names (h : IsMade f) : f.names.Nodup := by
  induction h with
  | ofRow columns row => exact nodup_names_ofList _
  | ofList pairs => exact nodup_names_ofList pairs
  | ofMap columns entries former => exact nodup_names_ofList _
  | @set f name value _ ih =>
    have hnames : (f.set name value).names = (f.insertIfNew name value).names := by
      rw [names_set, names_insertIfNew]
    rw [hnames]
    exact nodup_names_insertIfNew ih name value

/-! ## Reading and laying out -/

/-- A row that was read is laid out as it was, filled up to the header. -/
theorem toRow_ofRow (h : row.length ≤ columns.length) :
    (ofRow columns row).toRow columns row = padRow columns.length row := by
  have hlength : (padRow columns.length row).length = columns.length := by
    simp [padRow]
    omega
  refine List.ext_getElem? fun j => ?_
  rw [getElem?_toRow]
  by_cases hj : j < columns.length
  · have hcell : (padRow columns.length row)[j]? = some (row.getD j "") := by
      rw [← getD_padRow columns.length row j, List.getD_eq_getElem?_getD,
        List.getElem?_eq_getElem (by omega), Option.getD_some]
    have hcolumn : columns[j]? = some columns[j] := List.getElem?_eq_getElem hj
    rw [hcolumn, hcell, Option.map_some]
    by_cases hfirst : columns[j] ∈ columns.take j
    · rw [if_pos hfirst]
    · rw [if_neg hfirst, get?_ofRow_of_first hcolumn hfirst, Option.getD_some]
  · rw [List.getElem?_eq_none (by omega), List.getElem?_eq_none (by omega), Option.map_none]

/-- A field of every name of the header is among fields that have these names. -/
theorem isSome_get?_of_names (h : f.names = columns.eraseDups) (hname : name ∈ columns) :
    ∃ value, f.get? name = some value := by
  have hmem : name ∈ f.names := by
    rw [h]
    exact List.mem_eraseDups.mpr hname
  obtain ⟨e, he, heq⟩ := List.mem_map.mp hmem
  have hsome : (f.entries.find? fun e => e.1 == name).isSome :=
    List.find?_isSome.mpr ⟨e, he, beq_iff_eq.mpr heq⟩
  obtain ⟨found, hfound⟩ := Option.isSome_iff_exists.mp hsome
  exact ⟨found.2, by rw [get?, hfound, Option.map_some]⟩

/-- Fields of the names of the header are read from every row that they were laid out over. -/
theorem ofRow_toRow (h : f.names = columns.eraseDups) (former : List String) :
    ofRow columns (f.toRow columns former) = f := by
  have hnames : (ofRow columns (f.toRow columns former)).names = f.names := by
    rw [names_ofRow, h]
  refine ext_of_get? hnames (nodup_names_ofList _) fun name hname => ?_
  have hcolumn : name ∈ columns := by
    rw [names_ofRow] at hname
    exact List.mem_eraseDups.mp hname
  obtain ⟨j, hj, hfirst⟩ := exists_first hcolumn
  obtain ⟨value, hvalue⟩ := isSome_get?_of_names h hcolumn
  have hcell : (f.toRow columns former)[j]? = some value := by
    rw [getElem?_toRow, hj, Option.map_some, if_neg hfirst, hvalue, Option.getD_some]
  rw [get?_ofRow_of_first hj hfirst, List.getD_eq_getElem?_getD, hcell, hvalue, Option.getD_some]

/-- A map of fields holds the text of every field. -/
theorem get?_toMap (h : f.names.Nodup) (name : String) :
    Script.Entries.get? f.toMap name = (f.get? name).map Script.Value.text := by
  have hkeys : ((f.entries.map fun e => (e.1, Script.Value.text e.2)).map Prod.fst).Nodup := by
    simpa [names, Function.comp_def] using h
  rw [toMap, Script.Entries.get?_ofList hkeys, Script.Entries.get?, List.find?_map, get?,
    Option.map_map, Option.map_map]
  rfl

/-- Fields of the names of the header are read from the map that scripts see of them. -/
theorem ofMap_toMap (h : f.names = columns.eraseDups) (former : Fields) :
    ofMap columns f.toMap former = f := by
  have hnodup : f.names.Nodup := by
    rw [h, ← names_ofRow columns []]
    exact nodup_names_ofList _
  have hnames : (ofMap columns f.toMap former).names = f.names := by
    rw [Formula.ofMap_eq, names_ofList, h]
    simp [Function.comp_def]
  refine ext_of_get? hnames (by rw [hnames]; exact hnodup) fun name hname => ?_
  have hcolumn : name ∈ columns := by
    rw [hnames, h] at hname
    exact List.mem_eraseDups.mp hname
  obtain ⟨value, hvalue⟩ := isSome_get?_of_names h hcolumn
  rw [Formula.ofMap_eq, get?_ofList_map hcolumn, get?_toMap hnodup, hvalue]
  rfl

/-- Under every header, a row and its fields say the same: fields that are read from a row no longer
than the header are laid out as this row, filled up; fields that have the names of the header, each
where it stands first, are read again from the row that they are laid out as, whatever it was
before, and from their map, whatever is there for names that it lacks. And however fields come
about, no name stands twice among them; after fields are set, in whatever order, every name has the
value that was set last, or the one from before where none was set. -/
theorem row_and_fields_agree (columns : List String) :
    (∀ row, row.length ≤ columns.length →
      (ofRow columns row).toRow columns row = padRow columns.length row) ∧
    (∀ f : Fields, f.names = columns.eraseDups →
      (∀ former, ofRow columns (f.toRow columns former) = f) ∧
      ∀ former, ofMap columns f.toMap former = f) ∧
    ∀ f : Fields, f.IsMade → f.names.Nodup ∧ ∀ writes,
      (f.setAll writes).names = (f.names ++ writes.map Prod.fst).eraseDups ∧
      ∀ name, (f.setAll writes).get? name = (lastWritten? writes name).or (f.get? name) := by
  refine ⟨fun row hrow => toRow_ofRow hrow, fun f hnames => ⟨?_, ?_⟩, fun f hmade => ?_⟩
  · exact fun former => ofRow_toRow hnames former
  · exact fun former => ofMap_toMap hnames former
  · have hnodup := hmade.nodup_names
    exact ⟨hnodup, fun writes => ⟨names_setAll hnodup writes, get?_setAll f writes⟩⟩

/-- A header with a name that stands twice, a row that is too short for it, fields of its names, and
two values that are set one after the other. -/
theorem row_and_fields_agree_repeated :
    (ofRow ["A", "B", "A"] ["1"]).toRow ["A", "B", "A"] ["1"] = ["1", "", ""] ∧
      ofRow ["A", "B", "A"] (toRow ⟨[("A", "x"), ("B", "y")]⟩ ["A", "B", "A"] ["1", "2", "3"]) =
        ⟨[("A", "x"), ("B", "y")]⟩ ∧
      ofMap ["A", "B", "A"] (toMap ⟨[("A", "x"), ("B", "y")]⟩) {} = ⟨[("A", "x"), ("B", "y")]⟩ ∧
      ((ofList [("B", "y"), ("B", "z")]).setAll [("A", "v"), ("B", "w"), ("A", "x")]).names =
        ["B", "A"] ∧
      ((ofList [("B", "y"), ("B", "z")]).setAll [("A", "v"), ("B", "w"), ("A", "x")]).get? "A" =
        some "x" := by
  obtain ⟨hrow, hfields, hmade⟩ := row_and_fields_agree ["A", "B", "A"]
  obtain ⟨hread, hmap⟩ := hfields ⟨[("A", "x"), ("B", "y")]⟩ (by decide)
  obtain ⟨-, hset⟩ := hmade (ofList [("B", "y"), ("B", "z")]) (.ofList _)
  obtain ⟨hnames, hget⟩ := hset [("A", "v"), ("B", "w"), ("A", "x")]
  refine ⟨(hrow ["1"] (by decide)).trans (by decide), hread ["1", "2", "3"], hmap {}, ?_, ?_⟩
  · exact hnames.trans (by decide)
  · exact (hget "A").trans (by decide)

end Fields

end FormulaSheet
