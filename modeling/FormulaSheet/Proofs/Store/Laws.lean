import FormulaSheet.Proofs.Text.Trimming
import FormulaSheet.Store.Basic

/-!
What is relied on of a store of tables, be it in memory or in files. Under every identifier there is
at most one record, and an operation that succeeds changes what stands under the identifier it was
given and nothing else. Records that stores make or change bear names without blanks around them, so
that in a store that only its own operations have changed every name is of that kind
(`IsGrown.isNamed`).
-/

namespace FormulaSheet

/-- The record of a table that there was none of. -/
def Record.fresh (o : Occasion) (owner id : String) : Record :=
  .new id owner none (o.firstRowId id) o.now

/-- What is saved under an identifier bears it, when the record there does. -/
theorem Record.id_of_saved {found : Option Record} {id : String}
    (h : ∀ r, found = some r → r.id = id) (o : Occasion) (owner : String) (u : Update) :
    ((found.getD (.fresh o owner id)).apply u o.now).id = id := by
  cases hf : found with
  | none => rfl
  | some r => exact h r hf

/-- Only the owner gets a record. -/
theorem Record.owned_eq_ok_iff {r r' : Record} {owner : String} {e : Error} :
    (if r.owner = owner then Except.ok r else .error e) = .ok r' ↔ r = r' ∧ r'.owner = owner := by
  by_cases h : r.owner = owner
  · rw [if_pos h]
    constructor
    · rintro ⟨⟩
      exact ⟨rfl, h⟩
    · rintro ⟨rfl, -⟩
      rfl
  · rw [if_neg h]
    simp only [reduceCtorEq, false_iff]
    rintro ⟨rfl, ho⟩
    exact h ho

/-- A store with at most one record under every identifier. -/
class LawfulStore (σ : Type) [TableStore σ] where
  /-- The record under an identifier, whoever owns it. -/
  record? : σ → String → Option Record
  /-- The store is one that its operations can leave. -/
  IsSound : σ → Prop
  load_eq_ok_iff {s : σ} {owner id : String} {r : Record} :
    TableStore.load owner id s = .ok r ↔ record? s id = some r ∧ r.owner = owner
  create_ok {s s' : σ} {o : Occasion} {owner : String} {name : Option String} {r : Record} :
    IsSound s → TableStore.create o owner name s = .ok (r, s') →
      r = .new o.tableId owner name (o.firstRowId o.tableId) o.now ∧ IsSound s' ∧
        ∀ other, record? s' other = if other = r.id then some r else record? s other
  save_ok {s s' : σ} {o : Occasion} {owner id : String} {u : Update} {cancelled : Bool} :
    IsSound s → TableStore.save o owner id u cancelled s = .ok s' →
      ((record? s id).getD (.fresh o owner id)).owner = owner ∧ IsSound s' ∧
        ∀ other, record? s' other =
          if other = id then some (((record? s id).getD (.fresh o owner id)).apply u o.now)
          else record? s other
  /-- An owner's save of a table that is there can be cancelled, and fails in no other way. -/
  save_error {s : σ} {o : Occasion} {owner id : String} {u : Update} {cancelled : Bool}
    {r : Record} {e : Error} :
    IsSound s → record? s id = some r → r.owner = owner →
      TableStore.save o owner id u cancelled s = .error e → e = .cancelled
  delete_ok {s s' : σ} {owner id : String} :
    IsSound s → TableStore.delete owner id s = .ok s' →
      IsSound s' ∧ ∀ other, record? s' other = if other = id then none else record? s other

/-! ## Names -/

theorem Record.trimmedName_trimmedName (name : String) :
    trimmedName (trimmedName name) = trimmedName name := by
  cases h : (Number.trimmed name.toList).isEmpty with
  | true =>
    have hname : trimmedName name = defaultName := by simp [trimmedName, h]
    rw [hname]
    rfl
  | false =>
    simp [trimmedName, Number.trimmed_trimmed, h]

example : Record.trimmedName " b " = "b" ∧ Record.trimmedName " \t" = "Untitled" := by decide

/-- No blanks stand around the name, and it is not empty. -/
def Record.IsNamed (r : Record) : Prop := trimmedName r.name = r.name

theorem Record.isNamed_new (id owner : String) (name : Option String) (rowId : String)
    (now : Instant) : (Record.new id owner name rowId now).IsNamed :=
  trimmedName_trimmedName _

theorem Record.IsNamed.apply {r : Record} (h : r.IsNamed) (u : Update) (now : Instant) :
    (r.apply u now).IsNamed := by
  cases hn : u.name with
  | none => simpa [IsNamed, Record.apply, hn] using h
  | some name => simp [IsNamed, Record.apply, hn, trimmedName_trimmedName]

namespace LawfulStore

variable {σ : Type} [TableStore σ] [LawfulStore σ]

/-- Stores that nothing but their own operations has changed since they were empty. -/
inductive IsGrown : σ → Prop
  | empty {s : σ} : IsSound s → (∀ id, record? s id = none) → IsGrown s
  | create {s s' : σ} {o : Occasion} {owner : String} {name : Option String} {r : Record} :
    IsGrown s → TableStore.create o owner name s = .ok (r, s') → IsGrown s'
  | save {s s' : σ} {o : Occasion} {owner id : String} {u : Update} {cancelled : Bool} :
    IsGrown s → TableStore.save o owner id u cancelled s = .ok s' → IsGrown s'
  | delete {s s' : σ} {owner id : String} :
    IsGrown s → TableStore.delete owner id s = .ok s' → IsGrown s'

theorem IsGrown.isSound {s : σ} (h : IsGrown s) : IsSound s := by
  induction h with
  | empty hs _ => exact hs
  | create _ hc ih => exact (create_ok ih hc).2.1
  | save _ hs ih => exact (save_ok ih hs).2.1
  | delete _ hd ih => exact (delete_ok ih hd).1

theorem IsGrown.isNamed {s : σ} (h : IsGrown s) {id : String} {r : Record}
    (hr : record? s id = some r) : r.IsNamed := by
  induction h generalizing id r with
  | empty _ hs => simp [hs] at hr
  | create hg hc ih =>
    obtain ⟨hnew, -, hrec⟩ := create_ok hg.isSound hc
    rw [hrec] at hr
    split at hr
    · cases hr
      rw [hnew]
      exact Record.isNamed_new ..
    · exact ih hr
  | @save s _ o owner id' u _ hg hs ih =>
    obtain ⟨-, -, hrec⟩ := save_ok hg.isSound hs
    rw [hrec] at hr
    split at hr
    · cases hr
      cases ho : record? s id' with
      | none => exact (Record.isNamed_new ..).apply u o.now
      | some old => exact (ih ho).apply u o.now
    · exact ih hr
  | delete hg hd ih =>
    obtain ⟨-, hrec⟩ := delete_ok hg.isSound hd
    rw [hrec] at hr
    split at hr
    · cases hr
    · exact ih hr

end LawfulStore

end FormulaSheet
