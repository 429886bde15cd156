import FormulaSheet.Proofs.Store.Laws
import FormulaSheet.Proofs.Store.RecordText
import FormulaSheet.Store.Files

/-!
The store in files is a lawful one, as long as every file holds a record of the identifier that it
is named for. A table's file never has the name under which another one is written at first.
-/

namespace FormulaSheet.FileStore

/-! ## Files -/

theorem fileText?_dropFile (s : FileStore) (name other : String) :
    (s.dropFile name).fileText? other = if other = name then none else s.fileText? other := by
  simp only [dropFile, fileText?, List.find?_filter]
  by_cases h : other = name
  · subst h
    rw [if_pos rfl, Option.map_eq_none_iff, List.find?_eq_none]
    intro f _
    simp
  · rw [if_neg h]
    congr 2
    funext f
    by_cases hf : f.1 = other
    · simp [hf, h]
    · simp [hf]

theorem fileText?_setFile (s : FileStore) (name text other : String) :
    (s.setFile name text).fileText? other =
      if other = name then some text else s.fileText? other := by
  have hrest := fileText?_dropFile s name other
  by_cases h : other = name
  · simp [setFile, fileText?, h]
  · rw [if_neg h] at hrest ⊢
    have hname : (name == other) = false := by simp [Ne.symm h]
    rw [← hrest]
    simp [setFile, fileText?, hname]

theorem fileOf_inj {id other : String} (h : fileOf id = fileOf other) : id = other := by
  have hlist := congrArg String.toList h
  simp only [fileOf, String.toList_append] at hlist
  exact String.toList_inj.mp (List.append_cancel_right hlist)

/-- The one ends in `n`, the other in `p`. -/
theorem fileOf_ne_draftOf (id other : String) : fileOf id ≠ draftOf other := by
  intro h
  have hlast := congrArg (fun name => name.toList.getLast?) h
  simp [fileOf, draftOf] at hlast

theorem fileText?_moveFile {s : FileStore} {name text : String}
    (h : s.fileText? name = some text) (other third : String) :
    (s.moveFile name other).fileText? third =
      if third = other then some text else if third = name then none else s.fileText? third := by
  rw [moveFile, h]
  simp only
  rw [fileText?_setFile, fileText?_dropFile]

/-! ## Records -/

theorem recordOf_toText (r : Record) : recordOf r.toText = .ok r := by
  rw [recordOf, Record.ofText_toText]

/-- A record that is written is found, and every other identifier finds what it did. -/
theorem find?_put {s s' : FileStore} {r : Record} (h : s.put r = .ok s') (id : String) :
    s'.find? id = if id = r.id then .ok (some r) else s.find? id := by
  cases hc : checkId r.id with
  | error e => simp [put, hc, bind, Except.bind] at h
  | ok u =>
    obtain rfl :
        (s.setFile (draftOf r.id) r.toText).moveFile (draftOf r.id) (fileOf r.id) = s' := by
      simpa [put, hc, bind, Except.bind, pure, Except.pure] using h
    have hdraft : (s.setFile (draftOf r.id) r.toText).fileText? (draftOf r.id) = some r.toText := by
      rw [fileText?_setFile, if_pos rfl]
    have htext := fileText?_moveFile hdraft (fileOf r.id) (fileOf id)
    by_cases hid : id = r.id
    · subst hid
      rw [if_pos rfl] at htext ⊢
      simp [find?, hc, htext, recordOf_toText, bind, Except.bind, pure, Except.pure]
    · have hother : fileOf id ≠ draftOf r.id := fileOf_ne_draftOf id r.id
      rw [if_neg fun hf => hid (fileOf_inj hf), if_neg hother, fileText?_setFile,
        if_neg hother] at htext
      rw [if_neg hid]
      simp only [find?, htext]

theorem checkId_of_find? {s : FileStore} {id : String} {found : Option Record}
    (h : s.find? id = .ok found) : checkId id = .ok () := by
  cases hc : checkId id with
  | error e => simp [find?, hc, bind, Except.bind] at h
  | ok u => rfl

theorem find?_dropFile {s : FileStore} {id : String} {found : Option Record}
    (h : s.find? id = .ok found) (other : String) :
    (s.dropFile (fileOf id)).find? other = if other = id then .ok none else s.find? other := by
  have htext := fileText?_dropFile s (fileOf id) (fileOf other)
  by_cases hid : other = id
  · subst hid
    rw [if_pos rfl] at htext ⊢
    simp [find?, checkId_of_find? h, htext, bind, Except.bind, pure, Except.pure]
  · rw [if_neg fun hf => hid (fileOf_inj hf)] at htext
    rw [if_neg hid]
    simp only [find?, htext]

/-- The record under an identifier, whoever owns it. -/
def record? (s : FileStore) (id : String) : Option Record :=
  match s.find? id with
  | .ok found => found
  | .error _ => none

theorem record?_eq_some_iff {s : FileStore} {id : String} {r : Record} :
    s.record? id = some r ↔ s.find? id = .ok (some r) := by
  unfold record?
  cases s.find? id with
  | error e => simp
  | ok found => simp

/-- Every file holds a record of the identifier that it is named for. -/
def IsSound (s : FileStore) : Prop := ∀ id r, s.record? id = some r → r.id = id

theorem record?_put {s s' : FileStore} {r : Record} (h : s.put r = .ok s') (id : String) :
    s'.record? id = if id = r.id then some r else s.record? id := by
  unfold record?
  rw [find?_put h]
  by_cases hid : id = r.id
  · rw [if_pos hid, if_pos hid]
  · rw [if_neg hid, if_neg hid]

theorem IsSound.put {s s' : FileStore} {r : Record} (hs : s.IsSound) (h : s.put r = .ok s') :
    s'.IsSound := by
  intro id old hold
  rw [record?_put h] at hold
  split at hold
  · rename_i hid
    cases hold
    exact hid.symm
  · exact hs id old hold

theorem load_eq_ok_iff {s : FileStore} {owner id : String} {r : Record} :
    s.load owner id = .ok r ↔ s.record? id = some r ∧ r.owner = owner := by
  rw [record?_eq_some_iff, load]
  cases s.find? id with
  | error e => simp [bind, Except.bind]
  | ok found =>
    cases found with
    | none => simp [bind, Except.bind]
    | some old => simp [bind, Except.bind, Record.owned_eq_ok_iff]

theorem save_eq_ok {s s' : FileStore} {o : Occasion} {owner id : String} {u : Update}
    {cancelled : Bool} (h : save o owner id u cancelled s = .ok s') :
    ((s.record? id).getD (.fresh o owner id)).owner = owner ∧
      s.put (((s.record? id).getD (.fresh o owner id)).apply u o.now) = .ok s' := by
  cases cancelled with
  | true => simp [save] at h
  | false =>
    unfold save at h
    rw [if_neg Bool.false_ne_true] at h
    unfold record?
    cases hf : s.find? id with
    | error e => simp [hf, bind, Except.bind] at h
    | ok found =>
      simp only [hf, bind, Except.bind] at h
      split at h
      · rename_i ho
        exact ⟨ho, h⟩
      · cases h

theorem record?_dropFile {s : FileStore} {id : String} {found : Option Record}
    (h : s.find? id = .ok found) (other : String) :
    (s.dropFile (fileOf id)).record? other = if other = id then none else s.record? other := by
  unfold record?
  rw [find?_dropFile h]
  by_cases hid : other = id
  · rw [if_pos hid, if_pos hid]
  · rw [if_neg hid, if_neg hid]

theorem delete_eq_ok {s s' : FileStore} {owner id : String} (h : delete owner id s = .ok s') :
    (∃ r, s.find? id = .ok (some r)) ∧ s' = s.dropFile (fileOf id) := by
  cases hl : s.load owner id with
  | error e => simp [delete, hl, bind, Except.bind] at h
  | ok r =>
    obtain ⟨hrec, -⟩ := load_eq_ok_iff.mp hl
    simp only [delete, hl, bind, Except.bind, pure, Except.pure] at h
    cases h
    exact ⟨⟨r, record?_eq_some_iff.mp hrec⟩, rfl⟩

instance : LawfulStore FileStore where
  record? := record?
  IsSound := IsSound
  load_eq_ok_iff := load_eq_ok_iff
  create_ok {s s' o owner name r} hs h := by
    have h : create o owner name s = .ok (r, s') := h
    cases hp : s.put (Record.new o.tableId owner name (o.firstRowId o.tableId) o.now) with
    | error e => simp [create, hp, bind, Except.bind] at h
    | ok after =>
      simp only [create, hp, bind, Except.bind, pure, Except.pure] at h
      cases h
      exact ⟨rfl, hs.put hp, record?_put hp⟩
  save_ok {s s' o owner id u _} hs h := by
    obtain ⟨howner, hput⟩ := save_eq_ok h
    refine ⟨howner, hs.put hput, fun other => ?_⟩
    rw [record?_put hput, Record.id_of_saved fun r hr => hs id r hr]
  save_error {s o owner id u cancelled r e} hs hr ho h := by
    have hr : s.record? id = some r := hr
    have h : save o owner id u cancelled s = .error e := h
    have hfind := record?_eq_some_iff.mp hr
    have hcheck : checkId (r.apply u o.now).id = .ok () := by
      have hid : (r.apply u o.now).id = id := hs id r hr
      rw [hid]
      exact checkId_of_find? hfind
    cases cancelled with
    | true =>
      simp only [save, if_true] at h
      cases h
      rfl
    | false =>
      -- the identifier names a file, so that writing cannot fail
      unfold save at h
      rw [if_neg Bool.false_ne_true] at h
      simp [hfind, bind, Except.bind, ho, put, hcheck, pure, Except.pure] at h
  delete_ok {s s' owner id} hs h := by
    obtain ⟨⟨r, hfind⟩, rfl⟩ := delete_eq_ok h
    refine ⟨fun other old hold => ?_, record?_dropFile hfind⟩
    rw [record?_dropFile hfind] at hold
    split at hold
    · cases hold
    · exact hs other old hold

end FormulaSheet.FileStore
