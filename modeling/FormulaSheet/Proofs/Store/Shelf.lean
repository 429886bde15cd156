import FormulaSheet.Proofs.Store.Laws
import Mathlib.Data.List.Perm.Basic
import Mathlib.Logic.Function.Basic

/-!
What operations on a store do, told by the records under its identifiers alone (`Shelf`). An owner's
operation looks at the owner's own records and at nothing else, and leaves everybody else's as they
were. Two things are needed for that, since all owners name their tables from one stock of
identifiers: what is created gets an identifier that nothing is under, and what is saved is not
under an identifier of somebody else's record.
-/

namespace FormulaSheet

/-- The record under each identifier. -/
abbrev Shelf := String → Option Record

namespace Shelf

/-- The records of one owner. -/
def of (f : Shelf) (owner : String) : Shelf := fun id => (f id).filter fun r => r.owner = owner

section

variable {f : Shelf} {owner id : String}

theorem of_eq_some_iff {r : Record} : f.of owner id = some r ↔ f id = some r ∧ r.owner = owner := by
  simp [of, Option.filter_eq_some_iff]

theorem of_eq_none_iff : f.of owner id = none ↔ ∀ r, f id = some r → r.owner ≠ owner := by
  simp [of, Option.filter_eq_none_iff]

theorem of_eq_none (h : f id = none) : f.of owner id = none := by
  simp [of, h]

/-- Nobody else has a record under the identifier. -/
theorem of_eq_self_iff : f.of owner id = f id ↔ ∀ r, f id = some r → r.owner = owner := by
  cases hf : f id with
  | none => simp [of, hf]
  | some r => simp [of, hf, Option.filter_eq_some_iff]

@[simp] theorem of_of (f : Shelf) (owner : String) : (f.of owner).of owner = f.of owner := by
  funext id
  rw [of_eq_self_iff]
  intro r hr
  exact (of_eq_some_iff.mp hr).2

theorem of_update (f : Shelf) (owner id : String) (found : Option Record) :
    Shelf.of (Function.update f id found) owner =
      Function.update (f.of owner) id (found.filter fun r => r.owner = owner) := by
  funext other
  by_cases h : other = id
  · subst h
    simp [of]
  · simp [of, Function.update_of_ne h]

theorem of_update_own {r : Record} (h : r.owner = owner) :
    Shelf.of (Function.update f id (some r)) owner = Function.update (f.of owner) id (some r) := by
  rw [of_update, Option.filter_some_pos (by simpa using h)]

/-- What stands under one identifier is nothing to an owner who has no record there, before or
after. -/
theorem of_update_foreign {found : Option Record} (hbefore : f.of owner id = none)
    (hafter : ∀ r, found = some r → r.owner ≠ owner) :
    Shelf.of (Function.update f id found) owner = f.of owner := by
  have hnone : (found.filter fun r => r.owner = owner) = none := by
    simpa [Option.filter_eq_none_iff] using hafter
  rw [of_update, hnone, ← hbefore, Function.update_eq_self]

end

/-! ## Operations -/

def load (owner id : String) (f : Shelf) : Except Error Record :=
  match f.of owner id with
  | some r => .ok r
  | none => .error (.notFound id)

/-- Only some identifiers are ones that a store can put a record under. -/
def create (accepts : String → Bool) (o : Occasion) (owner : String) (name : Option String)
    (f : Shelf) : Except Error (Record × Shelf) :=
  if accepts o.tableId then
    let r := Record.new o.tableId owner name (o.firstRowId o.tableId) o.now
    .ok (r, Function.update f o.tableId (some r))
  else .error (.notFound o.tableId)

def save (accepts : String → Bool) (o : Occasion) (owner id : String) (u : Update)
    (cancelled : Bool) (f : Shelf) : Except Error Shelf :=
  if cancelled then .error .cancelled
  else if accepts id then
    let r := (f id).getD (.fresh o owner id)
    if r.owner = owner then .ok (Function.update f id (some (r.apply u o.now)))
    else .error (.notFound id)
  else .error (.notFound id)

def delete (owner id : String) (f : Shelf) : Except Error Shelf :=
  (f.load owner id).map fun _ => Function.update f id none

/-! ## An owner's operation on the owner's records alone -/

section

variable {f : Shelf} {owner id : String} {accepts : String → Bool} {o : Occasion}

theorem load_of (f : Shelf) (owner id : String) : load owner id (f.of owner) = load owner id f := by
  rw [load, of_of, load]

theorem create_of (accepts : String → Bool) (o : Occasion) (owner : String) (name : Option String)
    (f : Shelf) :
    create accepts o owner name (f.of owner) =
      (create accepts o owner name f).map fun p => (p.1, Shelf.of p.2 owner) := by
  unfold create
  split
  · have hown : (Record.new o.tableId owner name (o.firstRowId o.tableId) o.now).owner = owner :=
      rfl
    simp only [Except.map]
    rw [of_update_own hown]
  · rfl

theorem save_of (h : f.of owner id = f id) (u : Update) (cancelled : Bool) :
    save accepts o owner id u cancelled (f.of owner) =
      (save accepts o owner id u cancelled f).map fun g => g.of owner := by
  unfold save
  rw [h]
  split
  · rfl
  split
  · simp only
    split
    · rename_i howner
      have hown : (((f id).getD (.fresh o owner id)).apply u o.now).owner = owner := howner
      simp only [Except.map]
      rw [of_update_own hown]
    · rfl
  · rfl

theorem delete_of (owner id : String) (f : Shelf) :
    delete owner id (f.of owner) = (delete owner id f).map fun g => g.of owner := by
  unfold delete
  rw [load_of]
  cases load owner id f with
  | error e => rfl
  | ok r => simp [Except.map, of_update]

end

/-! ## What an operation can change -/

section

variable {f g : Shelf} {owner id : String} {accepts : String → Bool} {o : Occasion}

theorem create_eq_ok {name : Option String} {r : Record}
    (h : create accepts o owner name f = .ok (r, g)) :
    r.owner = owner ∧ g = Function.update f o.tableId (some r) := by
  unfold create at h
  split at h
  · cases h
    exact ⟨rfl, rfl⟩
  · cases h

theorem save_eq_ok {u : Update} {cancelled : Bool}
    (h : save accepts o owner id u cancelled f = .ok g) :
    (∀ r, f id = some r → r.owner = owner) ∧
      ∃ r : Record, r.owner = owner ∧ g = Function.update f id (some r) := by
  unfold save at h
  split at h
  · cases h
  split at h
  · simp only at h
    split at h
    · rename_i howner
      cases h
      refine ⟨fun r hr => ?_, ((f id).getD (.fresh o owner id)).apply u o.now, howner, rfl⟩
      rwa [hr, Option.getD_some] at howner
    · cases h
  · cases h

theorem delete_eq_ok (h : delete owner id f = .ok g) :
    (∀ r, f id = some r → r.owner = owner) ∧ g = Function.update f id none := by
  cases hown : f.of owner id with
  | none => simp [delete, load, hown, Except.map] at h
  | some r =>
    obtain ⟨hfound, howner⟩ := of_eq_some_iff.mp hown
    refine ⟨fun r' hr' => ?_, ?_⟩
    · obtain rfl : r = r' := Option.some.inj (hfound.symm.trans hr')
      exact howner
    · simpa [delete, load, hown, Except.map] using h.symm

end

/-! ## What is somebody else's -/

section

variable {f : Shelf} {owner id : String} {accepts : String → Bool} {o : Occasion}

theorem load_eq_error (h : f.of owner id = none) : load owner id f = .error (.notFound id) := by
  rw [load, h]

theorem delete_eq_error (h : f.of owner id = none) : delete owner id f = .error (.notFound id) := by
  rw [delete, load_eq_error h]
  rfl

theorem save_eq_error {r : Record} (hr : f id = some r) (hne : r.owner ≠ owner) (u : Update)
    (cancelled : Bool) :
    save accepts o owner id u cancelled f =
      .error (if cancelled then .cancelled else .notFound id) := by
  unfold save
  cases cancelled with
  | true => rfl
  | false =>
    rw [hr, if_neg Bool.false_ne_true, if_neg Bool.false_ne_true]
    split
    · exact if_neg hne
    · rfl

end

end Shelf

end FormulaSheet
