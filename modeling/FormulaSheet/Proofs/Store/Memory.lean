import FormulaSheet.Proofs.Store.Laws
import FormulaSheet.Store.Memory

/-!
The store in memory is a lawful one, whatever records it starts with.
-/

namespace FormulaSheet.MemoryStore

theorem find?_put (s : MemoryStore) (r : Record) (id : String) :
    (s.put r).find? id = if id = r.id then some r else s.find? id := by
  by_cases h : id = r.id
  · simp [put, find?, h]
  · have hr : (r.id == id) = false := by simp [Ne.symm h]
    simp only [put, find?, List.find?_cons, hr, if_neg h, List.find?_filter]
    congr 1
    funext other
    by_cases ho : other.id = id
    · simp [ho, h]
    · simp [ho]

theorem find?_remove (s : MemoryStore) (id other : String) :
    (s.remove id).find? other = if other = id then none else s.find? other := by
  simp only [remove, find?, List.find?_filter]
  by_cases h : other = id
  · subst h
    rw [if_pos rfl, List.find?_eq_none]
    intro r _
    simp
  · rw [if_neg h]
    congr 1
    funext r
    by_cases hr : r.id = other
    · simp [hr, h]
    · simp [hr]

theorem id_of_find? {s : MemoryStore} {id : String} {r : Record} (h : s.find? id = some r) :
    r.id = id := by
  simpa using List.find?_some h

theorem load_eq_ok_iff {s : MemoryStore} {owner id : String} {r : Record} :
    s.load owner id = .ok r ↔ s.find? id = some r ∧ r.owner = owner := by
  unfold load
  cases s.find? id with
  | none => simp
  | some old => simp [Record.owned_eq_ok_iff]

theorem save_eq_ok {s s' : MemoryStore} {o : Occasion} {owner id : String} {u : Update}
    {cancelled : Bool} (h : save o owner id u cancelled s = .ok s') :
    ((s.find? id).getD (.fresh o owner id)).owner = owner ∧
      s' = s.put (((s.find? id).getD (.fresh o owner id)).apply u o.now) := by
  unfold save at h
  split at h
  · cases h
  · simp only at h
    split at h
    · rename_i ho
      cases h
      exact ⟨ho, rfl⟩
    · cases h

instance : LawfulStore MemoryStore where
  record? := find?
  IsSound _ := True
  load_eq_ok_iff := load_eq_ok_iff
  create_ok _ h := by
    cases h
    exact ⟨rfl, trivial, fun other => find?_put ..⟩
  save_ok {s s' o owner id u _} _ h := by
    obtain ⟨howner, rfl⟩ := save_eq_ok h
    refine ⟨howner, trivial, fun other => ?_⟩
    rw [find?_put, Record.id_of_saved fun r hr => id_of_find? hr]
  save_error {s o owner id u cancelled r e} _ hr ho h := by
    have hr : s.find? id = some r := hr
    have h : save o owner id u cancelled s = .error e := h
    simp only [save, hr, Option.getD_some, if_pos ho] at h
    split at h <;> cases h
    rfl
  delete_ok {s s' owner id} _ h := by
    have h : delete owner id s = .ok s' := h
    cases hl : s.load owner id with
    | error e => simp [delete, hl, bind, Except.bind] at h
    | ok r =>
      simp only [delete, hl, bind, Except.bind, pure, Except.pure] at h
      cases h
      exact ⟨trivial, find?_remove s id⟩

end FormulaSheet.MemoryStore
