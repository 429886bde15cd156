import FormulaSheet.Proofs.Store.Files
import FormulaSheet.Proofs.Store.Listing
import FormulaSheet.Proofs.Store.Memory

/-!
Both stores do to the records under their identifiers what `Shelf` says. The one in memory takes
every identifier; the one in files takes those that can name a file, and is otherwise the one in
memory with each record written out.
-/

namespace FormulaSheet

open LawfulStore (record?)

/-- A store whose operations are those on the records under its identifiers. -/
class ShelvedStore (σ : Type) [TableStore σ] [LawfulStore σ] where
  /-- The identifiers that a record can be put under. -/
  accepts : String → Bool
  /-- The store holds nothing but records, one under an identifier. -/
  IsTidy : σ → Prop
  load_eq {s : σ} (owner id : String) : IsTidy s →
    TableStore.load owner id s = Shelf.load owner id (record? s)
  create_eq {s : σ} (o : Occasion) (owner : String) (name : Option String) : IsTidy s →
    (TableStore.create o owner name s).map (fun p => (p.1, record? p.2)) =
      Shelf.create accepts o owner name (record? s)
  save_eq {s : σ} (o : Occasion) (owner id : String) (u : Update) (cancelled : Bool) : IsTidy s →
    (TableStore.save o owner id u cancelled s).map record? =
      Shelf.save accepts o owner id u cancelled (record? s)
  delete_eq {s : σ} (owner id : String) : IsTidy s →
    (TableStore.delete owner id s).map record? = Shelf.delete owner id (record? s)
  list_isListing {s : σ} (owner : String) : IsTidy s →
    Shelf.IsListing (record? s) owner (TableStore.list owner s)
  create_isTidy {s s' : σ} {o : Occasion} {owner : String} {name : Option String} {r : Record} :
    IsTidy s → TableStore.create o owner name s = .ok (r, s') → IsTidy s'
  save_isTidy {s s' : σ} {o : Occasion} {owner id : String} {u : Update} {cancelled : Bool} :
    IsTidy s → TableStore.save o owner id u cancelled s = .ok s' → IsTidy s'
  delete_isTidy {s s' : σ} {owner id : String} :
    IsTidy s → TableStore.delete owner id s = .ok s' → IsTidy s'

/-! ## In memory -/

namespace MemoryStore

/-- There is one record of an identifier. -/
def IsTidy (s : MemoryStore) : Prop := (s.records.map Record.id).Nodup

theorem find?_put_eq (s : MemoryStore) (r : Record) :
    (s.put r).find? = Function.update s.find? r.id (some r) := by
  funext id
  rw [find?_put, Function.update_apply]

theorem find?_remove_eq (s : MemoryStore) (id : String) :
    (s.remove id).find? = Function.update s.find? id none := by
  funext other
  rw [find?_remove, Function.update_apply]

theorem IsTidy.remove {s : MemoryStore} (h : s.IsTidy) (id : String) : (s.remove id).IsTidy :=
  List.Nodup.sublist (List.filter_sublist.map Record.id) h

theorem IsTidy.put {s : MemoryStore} (h : s.IsTidy) (r : Record) : (s.put r).IsTidy := by
  have hnew : r.id ∉ (s.remove r.id).records.map Record.id := by
    simp [MemoryStore.remove]
  exact List.nodup_cons.mpr ⟨hnew, h.remove r.id⟩

/-- What is found is what is there. -/
theorem IsTidy.find?_eq_some_iff {s : MemoryStore} (h : s.IsTidy) {id : String} {r : Record} :
    s.find? id = some r ↔ r ∈ s.records ∧ r.id = id := by
  constructor
  · intro hr
    exact ⟨List.mem_of_find?_eq_some hr, id_of_find? hr⟩
  · rintro ⟨hmem, rfl⟩
    cases hf : s.find? r.id with
    | none =>
      have hnone := List.find?_eq_none.mp hf r hmem
      simp at hnone
    | some other =>
      have hid : other.id = r.id := id_of_find? hf
      rw [List.inj_on_of_nodup_map h (List.mem_of_find?_eq_some hf) hmem hid]

theorem load_eq (owner id : String) (s : MemoryStore) :
    s.load owner id = Shelf.load owner id s.find? := by
  unfold load Shelf.load
  cases hf : s.find? id with
  | none => rw [Shelf.of_eq_none hf]
  | some r =>
    by_cases h : r.owner = owner
    · rw [Shelf.of_eq_some_iff.mpr ⟨hf, h⟩]
      exact if_pos h
    · have hnone : Shelf.of s.find? owner id = none := by
        rw [Shelf.of_eq_none_iff, hf]
        rintro _ ⟨⟩
        exact h
      rw [hnone]
      exact if_neg h

theorem create_eq (o : Occasion) (owner : String) (name : Option String) (s : MemoryStore) :
    (create o owner name s).map (fun p => (p.1, p.2.find?)) =
      Shelf.create (fun _ => true) o owner name s.find? := by
  simp only [create, Shelf.create, Except.map, if_true, find?_put_eq]
  rfl

theorem save_eq (o : Occasion) (owner id : String) (u : Update) (cancelled : Bool)
    (s : MemoryStore) :
    (save o owner id u cancelled s).map find? =
      Shelf.save (fun _ => true) o owner id u cancelled s.find? := by
  have hid : (((s.find? id).getD (.fresh o owner id)).apply u o.now).id = id :=
    Record.id_of_saved (fun r hr => id_of_find? hr) o owner u
  have hput := find?_put_eq s (((s.find? id).getD (.fresh o owner id)).apply u o.now)
  rw [hid] at hput
  unfold save Shelf.save
  split
  · rfl
  simp only [if_true]
  change Except.map find?
    (if ((s.find? id).getD (.fresh o owner id)).owner = owner then _ else _) = _
  split
  · exact congrArg Except.ok hput
  · rfl

theorem delete_eq (owner id : String) (s : MemoryStore) :
    (delete owner id s).map find? = Shelf.delete owner id s.find? := by
  unfold delete Shelf.delete
  rw [load_eq]
  cases Shelf.load owner id s.find? with
  | error e => rfl
  | ok r => simp [bind, Except.bind, pure, Except.pure, Except.map, find?_remove_eq]

theorem delete_eq_ok {s s' : MemoryStore} {owner id : String} (h : delete owner id s = .ok s') :
    s' = s.remove id := by
  cases hl : s.load owner id with
  | error e => simp [delete, hl, bind, Except.bind] at h
  | ok r =>
    simp only [delete, hl, bind, Except.bind, pure, Except.pure] at h
    cases h
    rfl

theorem list_isListing {s : MemoryStore} (h : s.IsTidy) (owner : String) :
    Shelf.IsListing s.find? owner (s.list owner) := by
  refine ⟨s.records.filter fun r => r.owner == owner, ?_, fun r => ?_, rfl⟩
  · exact List.Nodup.sublist (List.filter_sublist.map Record.id) h
  · rw [Shelf.of_eq_some_iff, h.find?_eq_some_iff, List.mem_filter]
    simp

instance : ShelvedStore MemoryStore where
  accepts _ := true
  IsTidy := IsTidy
  load_eq {s} owner id _ := load_eq owner id s
  create_eq {s} o owner name _ := create_eq o owner name s
  save_eq {s} o owner id u cancelled _ := save_eq o owner id u cancelled s
  delete_eq {s} owner id _ := delete_eq owner id s
  list_isListing owner h := list_isListing h owner
  create_isTidy h hc := by
    cases hc
    exact IsTidy.put h _
  save_isTidy h hs := by
    obtain ⟨-, rfl⟩ := save_eq_ok hs
    exact IsTidy.put h _
  delete_isTidy h hd := by
    obtain rfl := delete_eq_ok hd
    exact IsTidy.remove h _

end MemoryStore

/-! ## In files -/

namespace FileStore

theorem fileOf_beq (id other : String) : (fileOf id == fileOf other) = (id == other) := by
  rw [Bool.eq_iff_iff, beq_iff_eq, beq_iff_eq]
  constructor
  · exact fileOf_inj
  · rintro rfl
    rfl

/-- The files of records. -/
def ofMemory (m : MemoryStore) : FileStore := ⟨m.records.map fun r => (fileOf r.id, r.toText)⟩

variable {m : MemoryStore}

theorem fileText?_ofMemory (m : MemoryStore) (id : String) :
    (ofMemory m).fileText? (fileOf id) = (m.find? id).map Record.toText := by
  have hname : ((fun f : String × String => f.1 == fileOf id) ∘ fun r : Record =>
      (fileOf r.id, r.toText)) = fun r => r.id == id := by
    funext r
    exact fileOf_beq r.id id
  simp only [ofMemory, fileText?, MemoryStore.find?, List.find?_map, Option.map_map, hname]
  rfl

theorem find?_ofMemory (m : MemoryStore) (id : String) :
    (ofMemory m).find? id =
      if isFileId id then .ok (m.find? id) else .error (.notFound id) := by
  unfold find? checkId
  split
  · rw [fileText?_ofMemory]
    cases m.find? id with
    | none => rfl
    | some r => simp [recordOf_toText, bind, Except.bind, pure, Except.pure]
  · rfl

theorem dropFile_ofMemory (m : MemoryStore) (id : String) :
    (ofMemory m).dropFile (fileOf id) = ofMemory (m.remove id) := by
  have hname : ((fun f : String × String => f.1 != fileOf id) ∘ fun r : Record =>
      (fileOf r.id, r.toText)) = fun r => r.id != id := by
    funext r
    exact congrArg Bool.not (fileOf_beq r.id id)
  simp only [ofMemory, dropFile, MemoryStore.remove, List.filter_map, hname]

/-- The name under which a file is written at first is that of no table's file. -/
theorem dropFile_draftOf (m : MemoryStore) (id : String) :
    (ofMemory m).dropFile (draftOf id) = ofMemory m := by
  have hall : ∀ f ∈ (ofMemory m).files, (f.1 != draftOf id) = true := by
    intro f hf
    obtain ⟨r, -, rfl⟩ := List.mem_map.mp hf
    simpa using fileOf_ne_draftOf r.id id
  exact congrArg FileStore.mk (List.filter_eq_self.mpr hall)

/-- A file that is taken away before it has its name leaves nothing behind. -/
theorem dropFile_setFile_draftOf (m : MemoryStore) (id text : String) :
    ((ofMemory m).setFile (draftOf id) text).dropFile (draftOf id) = ofMemory m := by
  rw [setFile, dropFile, List.filter_cons_of_neg (by simp), dropFile_draftOf]
  exact dropFile_draftOf m id

theorem put_ofMemory (m : MemoryStore) (r : Record) :
    (ofMemory m).put r =
      if isFileId r.id then .ok (ofMemory (m.put r)) else .error (.notFound r.id) := by
  unfold put checkId
  split
  · have hmove : ((ofMemory m).setFile (draftOf r.id) r.toText).moveFile (draftOf r.id)
        (fileOf r.id) = ofMemory (m.put r) := by
      have htext := fileText?_setFile (ofMemory m) (draftOf r.id) r.toText (draftOf r.id)
      rw [if_pos rfl] at htext
      rw [moveFile, htext]
      show (((ofMemory m).setFile (draftOf r.id) r.toText).dropFile (draftOf r.id)).setFile
        (fileOf r.id) r.toText = ofMemory (m.put r)
      rw [dropFile_setFile_draftOf, setFile, dropFile_ofMemory]
      rfl
    simp [bind, Except.bind, pure, Except.pure, hmove]
  · rfl

theorem isTableFile_fileOf {id : String} (h : isFileId id = true) :
    isTableFile (fileOf id) = true := by
  have hne : id.toList ≠ [] := by
    rintro hnil
    obtain rfl : id = "" := String.toList_inj.mp hnil
    simp [isFileId] at h
  have hlength : 0 < id.toList.length := List.length_pos_of_ne_nil hne
  simp only [isTableFile, fileOf, String.toList_append, Bool.and_eq_true, decide_eq_true_eq,
    List.isSuffixOf_iff_suffix]
  refine ⟨?_, List.suffix_append _ _⟩
  rw [List.length_append]
  show 5 < id.toList.length + 5
  omega

/-- Every record has an identifier that can name a file. -/
def CanHold (m : MemoryStore) : Prop := ∀ r ∈ m.records, isFileId r.id = true

/-- The files are those of records, one of an identifier. -/
def IsTidy (s : FileStore) : Prop := ∃ m : MemoryStore, s = ofMemory m ∧ m.IsTidy ∧ CanHold m

theorem CanHold.find?_eq_none (h : CanHold m) {id : String} (hid : isFileId id = false) :
    m.find? id = none := by
  refine List.find?_eq_none.mpr fun r hr hrid => ?_
  rw [← beq_iff_eq.mp hrid, h r hr] at hid
  cases hid

theorem CanHold.remove (h : CanHold m) (id : String) : CanHold (m.remove id) :=
  fun r hr => h r (List.mem_of_mem_filter hr)

theorem CanHold.put (h : CanHold m) {r : Record} (hr : isFileId r.id = true) :
    CanHold (m.put r) := by
  intro other hother
  rcases List.mem_cons.mp hother with rfl | hmem
  · exact hr
  · exact h other (List.mem_of_mem_filter hmem)

theorem CanHold.save (h : CanHold m) {o : Occasion} {owner id : String} {u : Update}
    {cancelled : Bool} {m' : MemoryStore} (hid : isFileId id = true)
    (hs : MemoryStore.save o owner id u cancelled m = .ok m') : CanHold m' := by
  obtain ⟨-, rfl⟩ := MemoryStore.save_eq_ok hs
  refine h.put ?_
  rw [Record.id_of_saved fun r hr => MemoryStore.id_of_find? hr]
  exact hid

theorem record?_ofMemory (h : CanHold m) :
    (ofMemory m).record? = m.find? := by
  funext id
  unfold record?
  rw [find?_ofMemory]
  cases hid : isFileId id with
  | true => rfl
  | false =>
    rw [h.find?_eq_none hid]
    rfl

theorem load_ofMemory (h : CanHold m) (owner id : String) :
    (ofMemory m).load owner id = m.load owner id := by
  unfold load MemoryStore.load
  rw [find?_ofMemory]
  cases hid : isFileId id with
  | true => rfl
  | false =>
    rw [h.find?_eq_none hid]
    rfl

theorem create_ofMemory (m : MemoryStore) (o : Occasion) (owner : String) (name : Option String) :
    create o owner name (ofMemory m) =
      if isFileId o.tableId then
        (MemoryStore.create o owner name m).map fun p => (p.1, ofMemory p.2)
      else .error (.notFound o.tableId) := by
  have hput := put_ofMemory m (.new o.tableId owner name (o.firstRowId o.tableId) o.now)
  unfold create
  simp only [hput]
  change (if isFileId o.tableId then _ else _ : Except Error FileStore) >>= _ = _
  split
  · rfl
  · rfl

theorem save_ofMemory (m : MemoryStore) (o : Occasion) (owner id : String) (u : Update)
    (cancelled : Bool) :
    save o owner id u cancelled (ofMemory m) =
      if cancelled then .error .cancelled
      else if isFileId id then (MemoryStore.save o owner id u false m).map ofMemory
      else .error (.notFound id) := by
  unfold save MemoryStore.save
  rw [find?_ofMemory]
  split
  · rfl
  cases hid : isFileId id with
  | false => rfl
  | true =>
    have hsaved : (((m.find? id).getD (.fresh o owner id)).apply u o.now).id = id :=
      Record.id_of_saved (fun r hr => MemoryStore.id_of_find? hr) o owner u
    have hput := put_ofMemory m (((m.find? id).getD (.fresh o owner id)).apply u o.now)
    rw [hsaved, hid, if_pos rfl] at hput
    change (if ((m.find? id).getD (.fresh o owner id)).owner = owner then _ else _) =
      Except.map ofMemory (if ((m.find? id).getD (.fresh o owner id)).owner = owner then _ else _)
    split
    · exact hput
    · rfl

theorem delete_ofMemory (h : CanHold m) (owner id : String) :
    delete owner id (ofMemory m) = (MemoryStore.delete owner id m).map ofMemory := by
  unfold delete MemoryStore.delete
  rw [load_ofMemory h, dropFile_ofMemory]
  cases m.load owner id with
  | error e => rfl
  | ok r => rfl

theorem list_ofMemory (h : CanHold m) (owner : String) :
    (ofMemory m).list owner = m.list owner := by
  have hread : ((ofMemory m).files.filterMap fun f =>
      if isTableFile f.1 then (Record.ofText f.2).toOption else none) = m.records := by
    rw [ofMemory, List.filterMap_map]
    refine (List.filterMap_congr fun r hr => ?_).trans List.filterMap_some
    simp [isTableFile_fileOf (h r hr), Record.ofText_toText, Except.toOption]
  unfold list MemoryStore.list
  simp only [hread]

/-! What the files hold after an operation is again written out from memory. -/

theorem create_isTidy {s s' : FileStore} {o : Occasion} {owner : String} {name : Option String}
    {r : Record} (h : s.IsTidy) (hc : create o owner name s = .ok (r, s')) : s'.IsTidy := by
  obtain ⟨m, rfl, hm, hold⟩ := h
  rw [create_ofMemory] at hc
  split at hc
  · rename_i hid
    cases hc
    exact ⟨_, rfl, hm.put _, hold.put hid⟩
  · cases hc

theorem save_isTidy {s s' : FileStore} {o : Occasion} {owner id : String} {u : Update}
    {cancelled : Bool} (h : s.IsTidy) (hs : save o owner id u cancelled s = .ok s') :
    s'.IsTidy := by
  obtain ⟨m, rfl, hm, hold⟩ := h
  rw [save_ofMemory] at hs
  split at hs
  · cases hs
  split at hs
  · rename_i hid
    cases hsave : MemoryStore.save o owner id u false m with
    | error e => simp [hsave, Except.map] at hs
    | ok m' =>
      rw [hsave] at hs
      cases hs
      have hm' : m'.IsTidy := by
        obtain ⟨-, rfl⟩ := MemoryStore.save_eq_ok hsave
        exact hm.put _
      exact ⟨m', rfl, hm', hold.save hid hsave⟩
  · cases hs

theorem delete_isTidy {s s' : FileStore} {owner id : String} (h : s.IsTidy)
    (hd : delete owner id s = .ok s') : s'.IsTidy := by
  obtain ⟨m, rfl, hm, hold⟩ := h
  obtain ⟨-, rfl⟩ := delete_eq_ok hd
  exact ⟨m.remove id, dropFile_ofMemory m id, hm.remove id, hold.remove id⟩

theorem create_eq {s : FileStore} (h : s.IsTidy) (o : Occasion) (owner : String)
    (name : Option String) :
    (create o owner name s).map (fun p => (p.1, p.2.record?)) =
      Shelf.create isFileId o owner name s.record? := by
  obtain ⟨m, rfl, -, hold⟩ := h
  rw [create_ofMemory, record?_ofMemory hold, Shelf.create]
  split
  · rename_i hid
    have hnew := MemoryStore.create_eq o owner name m
    simp only [MemoryStore.create, Except.map, Shelf.create, if_true] at hnew ⊢
    rw [record?_ofMemory (hold.put hid)]
    exact hnew
  · rfl

theorem save_eq {s : FileStore} (h : s.IsTidy) (o : Occasion) (owner id : String) (u : Update)
    (cancelled : Bool) :
    (save o owner id u cancelled s).map record? =
      Shelf.save isFileId o owner id u cancelled s.record? := by
  obtain ⟨m, rfl, -, hold⟩ := h
  rw [save_ofMemory, record?_ofMemory hold, Shelf.save]
  split
  · rfl
  split
  · rename_i hid
    have hmemory := MemoryStore.save_eq o owner id u false m
    cases hsave : MemoryStore.save o owner id u false m with
    | error e =>
      rw [hsave] at hmemory
      exact hmemory
    | ok m' =>
      rw [hsave] at hmemory
      simp only [Except.map] at hmemory ⊢
      rw [record?_ofMemory (hold.save hid hsave)]
      exact hmemory
  · rfl

theorem delete_eq {s : FileStore} (h : s.IsTidy) (owner id : String) :
    (delete owner id s).map record? = Shelf.delete owner id s.record? := by
  obtain ⟨m, rfl, -, hold⟩ := h
  have hmemory := MemoryStore.delete_eq owner id m
  rw [delete_ofMemory hold, record?_ofMemory hold, ← hmemory]
  cases hdelete : MemoryStore.delete owner id m with
  | error e => rfl
  | ok m' =>
    obtain rfl := MemoryStore.delete_eq_ok hdelete
    simp only [Except.map]
    rw [record?_ofMemory (hold.remove id)]

instance : ShelvedStore FileStore where
  accepts := isFileId
  IsTidy := IsTidy
  load_eq {s} owner id h := by
    obtain ⟨m, rfl, -, hold⟩ := h
    show (ofMemory m).load owner id = Shelf.load owner id (ofMemory m).record?
    rw [load_ofMemory hold, record?_ofMemory hold, MemoryStore.load_eq]
  create_eq o owner name h := create_eq h o owner name
  save_eq o owner id u cancelled h := save_eq h o owner id u cancelled
  delete_eq owner id h := delete_eq h owner id
  list_isListing {s} owner h := by
    obtain ⟨m, rfl, hm, hold⟩ := h
    show Shelf.IsListing (ofMemory m).record? owner ((ofMemory m).list owner)
    rw [record?_ofMemory hold, list_ofMemory hold]
    exact MemoryStore.list_isListing hm owner
  create_isTidy := create_isTidy
  save_isTidy := save_isTidy
  delete_isTidy := delete_isTidy

end FileStore

end FormulaSheet
