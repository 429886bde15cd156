import FormulaSheet.Proofs.Store.Shelves

/-!
Owners do not get in each other's way. Whatever owners ask of a store, one after the other, the
records of each are changed by the owner alone, and to everybody else they are as good as not there
(`OwnersApart`). An owner is then told the same as if there were no others, as long as no other
owner puts a record under an identifier that this owner saves under; to create one there is enough
to be in the way (`told_otherwise`).
-/

namespace FormulaSheet.TableStore

open LawfulStore (record?)
open ShelvedStore (accepts IsTidy)

/-- What can be asked of a store. -/
inductive Call where
  | create (name : Option String)
  | load (id : String)
  | save (id : String) (update : Update) (cancelled : Bool)
  | delete (id : String)
  | list
  deriving DecidableEq

/-- An owner's call, at its time and with the identifiers for what is new. -/
structure Request where
  occasion : Occasion
  owner : String
  call : Call

inductive Answer where
  | failed (e : Error)
  | table (r : Record)
  | done
  | tables (told : List Summary)
  deriving DecidableEq

/-- The answer and what it leaves behind; a call that fails leaves what there was. -/
def conclude {α : Type} (outcome : Except Error (Answer × α)) (start : α) : Answer × α :=
  match outcome with
  | .ok p => p
  | .error e => (.failed e, start)

namespace Request

/-- The identifier of a new table. -/
def creates? (q : Request) : Option String :=
  match q.call with
  | .create _ => some q.occasion.tableId
  | _ => none

/-- The identifier that a request saves under. -/
def saves? (q : Request) : Option String :=
  match q.call with
  | .save id _ _ => some id
  | _ => none

/-- The identifier that a request can put a record under. -/
def puts? (q : Request) : Option String := q.creates? <|> q.saves?

section

variable {σ : Type} [TableStore σ]

def attempt (q : Request) (s : σ) : Except Error (Answer × σ) :=
  match q.call with
  | .create name => (create q.occasion q.owner name s).map fun p => (.table p.1, p.2)
  | .load id => (load q.owner id s).map fun r => (.table r, s)
  | .save id u cancelled => (save q.occasion q.owner id u cancelled s).map fun s' => (.done, s')
  | .delete id => (delete q.owner id s).map fun s' => (.done, s')
  | .list => .ok (.tables (list q.owner s), s)

def perform (q : Request) (s : σ) : Answer × σ := conclude (q.attempt s) s

/-- What is created gets an identifier that nothing is under. -/
def IsFresh [LawfulStore σ] (q : Request) (s : σ) : Prop :=
  ∀ id ∈ q.creates?, record? s id = none

instance [LawfulStore σ] (q : Request) (s : σ) : Decidable (q.IsFresh s) :=
  inferInstanceAs (Decidable (∀ id ∈ q.creates?, record? s id = none))

end

/-- A request, on the records under the identifiers alone. -/
def attemptOn (accepts : String → Bool) (told : List Summary) (q : Request) (f : Shelf) :
    Except Error (Answer × Shelf) :=
  match q.call with
  | .create name => (f.create accepts q.occasion q.owner name).map fun p => (.table p.1, p.2)
  | .load id => (f.load q.owner id).map fun r => (.table r, f)
  | .save id u cancelled =>
    (f.save accepts q.occasion q.owner id u cancelled).map fun g => (.done, g)
  | .delete id => (f.delete q.owner id).map fun g => (.done, g)
  | .list => .ok (.tables told, f)

end Request

/-! ## Requests on shelves -/

theorem exists_of_map_eq_ok {α β : Type} {x : Except Error α} {f : α → β} {b : β}
    (h : x.map f = .ok b) : ∃ a, x = .ok a ∧ f a = b := by
  cases x with
  | error e => cases h
  | ok a =>
    cases h
    exact ⟨a, rfl, rfl⟩

section

variable {accepts : String → Bool} {told : List Summary} {q : Request} {f g : Shelf}
  {answer : Answer}

/-- What one request can change: at most what is under one identifier. Nobody else's record is there
before or after. -/
theorem Request.attemptOn_eq_ok (hfresh : ∀ id ∈ q.creates?, f id = none)
    (h : q.attemptOn accepts told f = .ok (answer, g)) :
    g = f ∨ ∃ id found, g = Function.update f id found ∧
      (∀ r, f id = some r → r.owner = q.owner) ∧
      ∀ r, found = some r → r.owner = q.owner ∧ q.puts? = some id := by
  unfold attemptOn at h
  cases hcall : q.call with
  | create name =>
    rw [hcall] at h
    obtain ⟨⟨r, g'⟩, hcreate, ⟨⟩⟩ := exists_of_map_eq_ok h
    obtain ⟨howner, rfl⟩ := Shelf.create_eq_ok hcreate
    have hnone : f q.occasion.tableId = none := hfresh _ (by simp [creates?, hcall])
    refine .inr ⟨q.occasion.tableId, some r, rfl, fun r' hr' => ?_, fun r' hr' => ?_⟩
    · rw [hnone] at hr'
      cases hr'
    · cases hr'
      exact ⟨howner, by simp [puts?, creates?, hcall]⟩
  | load id =>
    rw [hcall] at h
    obtain ⟨r, -, ⟨⟩⟩ := exists_of_map_eq_ok h
    exact .inl rfl
  | save id u cancelled =>
    rw [hcall] at h
    obtain ⟨g', hsave, ⟨⟩⟩ := exists_of_map_eq_ok h
    obtain ⟨hbefore, r, howner, rfl⟩ := Shelf.save_eq_ok hsave
    refine .inr ⟨id, some r, rfl, hbefore, fun r' hr' => ?_⟩
    cases hr'
    exact ⟨howner, by simp [puts?, creates?, saves?, hcall]⟩
  | delete id =>
    rw [hcall] at h
    obtain ⟨g', hdelete, ⟨⟩⟩ := exists_of_map_eq_ok h
    obtain ⟨hbefore, rfl⟩ := Shelf.delete_eq_ok hdelete
    exact .inr ⟨id, none, rfl, hbefore, fun r' hr' => by cases hr'⟩
  | list =>
    rw [hcall] at h
    cases h
    exact .inl rfl

/-- A request looks at the owner's records alone, if nobody else's is where it saves. -/
theorem Request.attemptOn_of (hsave : ∀ id ∈ q.saves?, f.of q.owner id = f id) :
    q.attemptOn accepts told (f.of q.owner) =
      (q.attemptOn accepts told f).map fun p => (p.1, p.2.of q.owner) := by
  unfold attemptOn
  cases hcall : q.call with
  | create name =>
    simp only [Shelf.create_of]
    cases f.create accepts q.occasion q.owner name <;> rfl
  | load id =>
    simp only [Shelf.load_of]
    cases f.load q.owner id <;> rfl
  | save id u cancelled =>
    simp only [Shelf.save_of (hsave id (by simp [saves?, hcall]))]
    cases f.save accepts q.occasion q.owner id u cancelled <;> rfl
  | delete id =>
    simp only [Shelf.delete_of]
    cases f.delete q.owner id <;> rfl
  | list => rfl

end

/-! ## Requests on stores -/

section

variable {σ : Type} [TableStore σ] [LawfulStore σ] [ShelvedStore σ] {q : Request} {s t : σ}

theorem Request.attempt_eq (h : IsTidy s) (q : Request) :
    (q.attempt s).map (fun p => (p.1, record? p.2)) =
      q.attemptOn (accepts σ) (list q.owner s) (record? s) := by
  unfold attempt attemptOn
  cases q.call with
  | create name =>
    simp only [← ShelvedStore.create_eq q.occasion q.owner name h]
    cases create q.occasion q.owner name s <;> rfl
  | load id =>
    simp only [← ShelvedStore.load_eq q.owner id h]
    cases load q.owner id s <;> rfl
  | save id u cancelled =>
    simp only [← ShelvedStore.save_eq q.occasion q.owner id u cancelled h]
    cases save q.occasion q.owner id u cancelled s <;> rfl
  | delete id =>
    simp only [← ShelvedStore.delete_eq q.owner id h]
    cases delete q.owner id s <;> rfl
  | list => rfl

theorem Request.perform_isTidy (h : IsTidy s) (q : Request) : IsTidy (q.perform s).2 := by
  unfold perform
  cases hq : q.attempt s with
  | error e => exact h
  | ok p =>
    obtain ⟨answer, s'⟩ := p
    show IsTidy s'
    unfold attempt at hq
    cases hcall : q.call with
    | create name =>
      rw [hcall] at hq
      obtain ⟨⟨r, s''⟩, hcreate, ⟨⟩⟩ := exists_of_map_eq_ok hq
      exact ShelvedStore.create_isTidy h hcreate
    | load id =>
      rw [hcall] at hq
      obtain ⟨r, -, ⟨⟩⟩ := exists_of_map_eq_ok hq
      exact h
    | save id u cancelled =>
      rw [hcall] at hq
      obtain ⟨s'', hsave, ⟨⟩⟩ := exists_of_map_eq_ok hq
      exact ShelvedStore.save_isTidy h hsave
    | delete id =>
      rw [hcall] at hq
      obtain ⟨s'', hdelete, ⟨⟩⟩ := exists_of_map_eq_ok hq
      exact ShelvedStore.delete_isTidy h hdelete
    | list =>
      rw [hcall] at hq
      cases hq
      exact h

theorem Request.perform_of_error {e : Error} (h : IsTidy s)
    (he : q.attemptOn (accepts σ) (list q.owner s) (record? s) = .error e) :
    q.perform s = (.failed e, s) := by
  rw [← attempt_eq h] at he
  unfold perform
  cases hq : q.attempt s with
  | error e' =>
    rw [hq] at he
    cases he
    rfl
  | ok p =>
    rw [hq] at he
    cases he

/-- What one request changes in a store. -/
theorem Request.record?_perform (h : IsTidy s) (hfresh : q.IsFresh s) :
    record? (q.perform s).2 = record? s ∨
      ∃ id found, record? (q.perform s).2 = Function.update (record? s) id found ∧
        (∀ r, record? s id = some r → r.owner = q.owner) ∧
        ∀ r, found = some r → r.owner = q.owner ∧ q.puts? = some id := by
  have heq := attempt_eq h q
  unfold perform
  cases hq : q.attempt s with
  | error e => exact .inl rfl
  | ok p =>
    obtain ⟨answer, s'⟩ := p
    rw [hq] at heq
    exact attemptOn_eq_ok hfresh heq.symm

/-- Nobody else's records are changed. -/
theorem Request.of_perform {owner : String} (h : IsTidy s) (hfresh : q.IsFresh s)
    (hne : q.owner ≠ owner) :
    Shelf.of (record? (q.perform s).2) owner = Shelf.of (record? s) owner := by
  rcases record?_perform h hfresh with heq | ⟨id, found, heq, hbefore, hafter⟩
  · rw [heq]
  · rw [heq]
    refine Shelf.of_update_foreign (Shelf.of_eq_none_iff.mpr fun r hr => ?_) fun r hr => ?_
    · rw [hbefore r hr]
      exact hne
    · rw [(hafter r hr).1]
      exact hne

/-- Where nobody but one owner has a record, it stays so, unless somebody else puts one there. -/
theorem Request.of_eq_perform {owner id : String} (h : IsTidy s) (hfresh : q.IsFresh s)
    (halone : Shelf.of (record? s) owner id = record? s id)
    (hputs : q.owner = owner ∨ q.puts? ≠ some id) :
    Shelf.of (record? (q.perform s).2) owner id = record? (q.perform s).2 id := by
  rw [Shelf.of_eq_self_iff] at halone ⊢
  intro r hr
  rcases record?_perform h hfresh with heq | ⟨other, found, heq, -, hafter⟩
  · rw [heq] at hr
    exact halone r hr
  · rw [heq] at hr
    by_cases hid : id = other
    · subst hid
      rw [Function.update_self] at hr
      obtain ⟨howner, hput⟩ := hafter r hr
      exact howner.trans (hputs.resolve_right fun hn => hn hput)
    · rw [Function.update_of_ne hid] at hr
      exact halone r hr

/-- Beside a store with nothing but the owner's records, a request is answered in the same way and
does the same to these records. -/
theorem Request.perform_alone (hs : IsTidy s) (ht : IsTidy t)
    (hst : record? t = Shelf.of (record? s) q.owner)
    (hsave : ∀ id ∈ q.saves?, Shelf.of (record? s) q.owner id = record? s id) :
    (q.perform t).1 = (q.perform s).1 ∧
      record? (q.perform t).2 = Shelf.of (record? (q.perform s).2) q.owner := by
  have hlist : list q.owner t = list q.owner s :=
    (ShelvedStore.list_isListing q.owner hs).unique (ShelvedStore.list_isListing q.owner ht)
      (by rw [hst, Shelf.of_of])
  have hsame : (q.attempt t).map (fun p => (p.1, record? p.2)) =
      (q.attempt s).map fun p => (p.1, Shelf.of (record? p.2) q.owner) := by
    rw [attempt_eq ht, hst, hlist, attemptOn_of hsave, ← attempt_eq hs]
    cases q.attempt s <;> rfl
  unfold perform
  cases hqs : q.attempt s with
  | error e =>
    cases hqt : q.attempt t with
    | error e' =>
      rw [hqs, hqt] at hsame
      cases hsame
      exact ⟨rfl, hst⟩
    | ok p =>
      rw [hqs, hqt] at hsame
      cases hsame
  | ok p =>
    cases hqt : q.attempt t with
    | error e =>
      rw [hqs, hqt] at hsame
      cases hsame
    | ok p' =>
      rw [hqs, hqt] at hsame
      obtain ⟨hanswer, hrecords⟩ := Prod.mk.inj (Except.ok.inj hsame)
      exact ⟨hanswer, hrecords⟩

end

/-! ## Runs -/

section

variable {σ : Type} [TableStore σ]

/-- What a run of requests leaves behind. -/
def after (qs : List Request) (s : σ) : σ := qs.foldl (fun s q => (q.perform s).2) s

/-- What one owner is told in a run. -/
def answersTo (owner : String) : List Request → σ → List Answer
  | [], _ => []
  | q :: qs, s =>
    if q.owner = owner then (q.perform s).1 :: answersTo owner qs (q.perform s).2
    else answersTo owner qs (q.perform s).2

variable [LawfulStore σ]

/-- Whatever is created in a run gets an identifier that nothing is under. -/
def IdsFresh : List Request → σ → Prop
  | [], _ => True
  | q :: qs, s => q.IsFresh s ∧ IdsFresh qs (q.perform s).2

instance IdsFresh.decidable : (qs : List Request) → (s : σ) → Decidable (IdsFresh qs s)
  | [], _ => .isTrue trivial
  | q :: qs, s =>
    have := IdsFresh.decidable qs (q.perform s).2
    inferInstanceAs (Decidable (q.IsFresh s ∧ IdsFresh qs (q.perform s).2))

/-- No other owner puts a record under an identifier that the owner saves under. -/
def SavesApart (owner : String) (qs : List Request) : Prop :=
  ∀ q ∈ qs, q.owner ≠ owner → ∀ id ∈ q.puts?,
    ∀ own ∈ qs, own.owner = owner → own.saves? ≠ some id

instance (owner : String) (qs : List Request) : Decidable (SavesApart owner qs) :=
  inferInstanceAs (Decidable (∀ q ∈ qs, q.owner ≠ owner → ∀ id ∈ q.puts?,
    ∀ own ∈ qs, own.owner = owner → own.saves? ≠ some id))

/-- From a state on, owners do not interfere with one another. -/
structure OwnersApart (start : σ) : Prop where
  /-- A request changes, removes and makes records of its owner only. -/
  kept {qs : List Request} {q : Request} : q.IsFresh (after qs start) →
    ∀ (id : String) (r : Record), r.owner ≠ q.owner →
      (record? (q.perform (after qs start)).2 id = some r ↔ record? (after qs start) id = some r)
  /-- What is somebody else's is not found, and what is not there neither. -/
  hidden {qs : List Request} {q : Request} {id : String} :
    (∀ r, record? (after qs start) id = some r → r.owner ≠ q.owner) →
    q.call = .load id ∨ q.call = .delete id →
      q.perform (after qs start) = (.failed (.notFound id), after qs start)
  /-- What is somebody else's is not found to be saved either. -/
  guarded {qs : List Request} {q : Request} {id : String} {u : Update} {cancelled : Bool}
    {r : Record} : record? (after qs start) id = some r → r.owner ≠ q.owner →
    q.call = .save id u cancelled →
      q.perform (after qs start) =
        (.failed (if cancelled then .cancelled else .notFound id), after qs start)
  /-- Lists tell of the owner's records and of no other. -/
  listed {qs : List Request} {q : Request} : q.call = .list →
    ∃ told, q.perform (after qs start) = (.tables told, after qs start) ∧
      ∀ x, x ∈ told ↔
        ∃ r, record? (after qs start) x.id = some r ∧ r.owner = q.owner ∧ r.summary = x
  /-- An owner is told the same as if there were no others. -/
  alone {qs : List Request} {owner : String} : IdsFresh qs start → SavesApart owner qs →
    answersTo owner qs start = answersTo owner (qs.filter fun q => q.owner = owner) start

end

section

variable {σ : Type} [TableStore σ] [LawfulStore σ] [ShelvedStore σ] {s t : σ}

theorem after_isTidy (h : IsTidy s) (qs : List Request) : IsTidy (after qs s) := by
  induction qs generalizing s with
  | nil => exact h
  | cons q qs ih => exact ih (q.perform_isTidy h)

theorem SavesApart.tail {owner : String} {q : Request} {qs : List Request}
    (h : SavesApart owner (q :: qs)) : SavesApart owner qs :=
  fun other hother hne id hid own hown => h other (.tail q hother) hne id hid own (.tail q hown)

/-- The run of all owners and the run of one go on side by side: the second store has the one
owner's records of the first, and where this owner still saves, nobody else has one. -/
theorem answersTo_alone {owner : String} {qs : List Request} (hs : IsTidy s) (ht : IsTidy t)
    (hst : record? t = Shelf.of (record? s) owner)
    (hsaves : ∀ q ∈ qs, q.owner = owner → ∀ id ∈ q.saves?,
      Shelf.of (record? s) owner id = record? s id)
    (hfresh : IdsFresh qs s) (hapart : SavesApart owner qs) :
    answersTo owner qs s = answersTo owner (qs.filter fun q => q.owner = owner) t := by
  induction qs generalizing s t with
  | nil => rfl
  | cons q qs ih =>
    obtain ⟨hq, hrest⟩ := hfresh
    -- an owner's identifiers stay the owner's alone
    have hsaves' : ∀ own ∈ qs, own.owner = owner → ∀ id ∈ own.saves?,
        Shelf.of (record? (q.perform s).2) owner id = record? (q.perform s).2 id := by
      intro own hmem hown id hid
      refine q.of_eq_perform hs hq (hsaves own (.tail q hmem) hown id hid) ?_
      by_cases howner : q.owner = owner
      · exact .inl howner
      · refine .inr fun hput => ?_
        exact hapart q (.head qs) howner id hput own (.tail q hmem) hown hid
    by_cases howner : q.owner = owner
    · subst howner
      obtain ⟨hanswer, hrecords⟩ := q.perform_alone hs ht hst (hsaves q (.head qs) rfl)
      have htail := ih (q.perform_isTidy hs) (q.perform_isTidy ht) hrecords hsaves' hrest
        hapart.tail
      rw [List.filter_cons_of_pos (by simp), answersTo, answersTo, if_pos rfl, if_pos rfl, hanswer,
        htail]
    · have hrecords : record? t = Shelf.of (record? (q.perform s).2) owner := by
        rw [q.of_perform hs hq howner, hst]
      have htail := ih (q.perform_isTidy hs) ht hrecords hsaves' hrest hapart.tail
      rw [List.filter_cons_of_neg (by simpa using howner), answersTo, if_neg howner, htail]

theorem ownersApart_of_empty (h : IsTidy s) (hempty : ∀ id, record? s id = none) :
    OwnersApart s where
  kept {qs q} hfresh id r hne := by
    have hof := congrFun (q.of_perform (after_isTidy h qs) hfresh (Ne.symm hne)) id
    have hiff : ∀ f : Shelf, f.of r.owner id = some r ↔ f id = some r := fun f =>
      Shelf.of_eq_some_iff.trans (and_iff_left rfl)
    rw [← hiff, hof, hiff]
  hidden {qs q id} hforeign hcall := by
    have hnone := Shelf.of_eq_none_iff.mpr hforeign
    refine Request.perform_of_error (after_isTidy h qs) ?_
    rcases hcall with hcall | hcall
    · simp only [Request.attemptOn, hcall, Shelf.load_eq_error hnone]
      rfl
    · simp only [Request.attemptOn, hcall, Shelf.delete_eq_error hnone]
      rfl
  guarded {qs q id u cancelled r} hr hne hcall := by
    refine Request.perform_of_error (after_isTidy h qs) ?_
    simp only [Request.attemptOn, hcall, Shelf.save_eq_error hr hne]
    rfl
  listed {qs q} hcall := by
    refine ⟨list q.owner (after qs s), ?_, fun x => ?_⟩
    · simp only [Request.perform, Request.attempt, hcall]
      rfl
    · exact (ShelvedStore.list_isListing q.owner (after_isTidy h qs)).mem_iff
  alone {qs owner} hfresh hapart := by
    have hof : Shelf.of (record? s) owner = record? s :=
      funext fun id => (Shelf.of_eq_none (hempty id)).trans (hempty id).symm
    exact answersTo_alone h h hof.symm (fun q _ _ id _ => congrFun hof id) hfresh hapart

end

theorem owners_do_not_interfere :
    OwnersApart ({} : MemoryStore) ∧ OwnersApart ({} : FileStore) := by
  refine ⟨ownersApart_of_empty List.nodup_nil fun _ => rfl, ownersApart_of_empty ?_ fun id => ?_⟩
  · exact ⟨{}, rfl, List.nodup_nil, fun r hr => by cases hr⟩
  · exact congrFun (FileStore.record?_ofMemory (m := {}) fun r hr => by cases hr) id

/-- Two owners at one store, each at the tables of the other, too. -/
def sharing : List Request :=
  [⟨{ now := .epoch, tableId := "t" }, "bob", .create none⟩,
    ⟨{ now := .epoch, tableId := "u" }, "ada", .create (some "mine")⟩,
    ⟨{ now := .epoch }, "ada", .load "t"⟩,
    ⟨{ now := .epoch }, "bob", .delete "u"⟩,
    ⟨{ now := .epoch }, "ada", .save "u" { csv := some "a" } false⟩,
    ⟨{ now := .epoch }, "bob", .save "v" { csv := some "b" } false⟩,
    ⟨{ now := .epoch }, "ada", .list⟩]

theorem owners_do_not_interfere_sharing :
    IdsFresh sharing ({} : FileStore) ∧ SavesApart "ada" sharing ∧
      answersTo "ada" sharing ({} : FileStore) =
        answersTo "ada" (sharing.filter fun q => q.owner = "ada") ({} : FileStore) :=
  have hfresh : IdsFresh sharing ({} : FileStore) := by decide +kernel
  have hapart : SavesApart "ada" sharing := by decide +kernel
  ⟨hfresh, hapart, owners_do_not_interfere.2.alone hfresh hapart⟩

/-- One owner creates a table, another one saves under its identifier. -/
def taken : List Request :=
  [⟨{ now := .epoch, tableId := "t" }, "bob", .create none⟩,
    ⟨{ now := .epoch }, "ada", .save "t" { csv := some "a" } false⟩]

/-- It is not enough that nobody else saves under an identifier that an owner saves under. -/
theorem told_otherwise :
    IdsFresh taken ({} : MemoryStore) ∧
      (∀ q ∈ taken, q.owner ≠ "ada" → ∀ id ∈ q.saves?,
        ∀ own ∈ taken, own.owner = "ada" → own.saves? ≠ some id) ∧
      answersTo "ada" taken ({} : MemoryStore) = [.failed (.notFound "t")] ∧
      answersTo "ada" (taken.filter fun q => q.owner = "ada") ({} : MemoryStore) = [.done] := by
  refine ⟨?_, ?_, ?_, ?_⟩ <;> decide +kernel

end FormulaSheet.TableStore
