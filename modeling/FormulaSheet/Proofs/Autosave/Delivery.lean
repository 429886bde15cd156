import FormulaSheet.Proofs.Autosave.Ledger
import FormulaSheet.Proofs.Autosave.Saves
import FormulaSheet.Proofs.Store.Memory

/-!
No update is lost and none overtakes another. What was asked for a table is what is stored, then
what waits, then what was not heard yet (`Delivery`): the saves that were not cancelled have stored
the batches of the ledger, and the store holds what their updates make of the record that was there
(`IsStored`).
-/

namespace FormulaSheet.Autosaver

open Update (merged)

/-- What the first update of a table applies to: its record, or a fresh one if there was none. -/
def IsOrigin (given : Occasion → Prop) (owner id : String) (prev : Option Record)
    (origin : Record) : Prop :=
  prev = some origin ∨ prev = none ∧ ∃ o, given o ∧ origin = .fresh o owner id

/-- What has become of a record once an update, empty or not, was saved under its identifier. -/
def IsStored (given : Occasion → Prop) (owner id : String) (prev : Option Record) (saved : Update)
    (cur : Option Record) : Prop :=
  if saved.isEmpty then cur = prev
  else ∃ origin r, IsOrigin given owner id prev origin ∧ cur = some r ∧
    ∀ now, r.timeless = (origin.apply saved now).timeless

theorem IsStored.nothing (given : Occasion → Prop) (owner id : String) (prev : Option Record) :
    IsStored given owner id prev {} prev := rfl

theorem IsStored.save {given : Occasion → Prop} {owner id : String} {prev cur : Option Record}
    {saved u : Update} {o : Occasion} (h : IsStored given owner id prev saved cur) (ho : given o)
    (hu : u.isEmpty = false) :
    IsStored given owner id prev (saved.merge u)
      (some ((cur.getD (.fresh o owner id)).apply u o.now)) := by
  have hboth : (saved.merge u).isEmpty = false := by
    rw [Update.isEmpty_merge, hu, Bool.and_false]
  unfold IsStored at h ⊢
  rw [if_neg (by simp [hboth])]
  split at h
  · -- the first update that is saved meets the record that was there, or none
    rename_i he
    rw [Update.isEmpty_iff.mp he, Update.empty_merge, h]
    refine ⟨prev.getD (.fresh o owner id), _, ?_, rfl,
      fun now => Record.timeless_apply_congr rfl u o.now now⟩
    cases prev with
    | none => exact .inr ⟨rfl, o, ho, rfl⟩
    | some r => exact .inl rfl
  · obtain ⟨origin, r, horigin, rfl, hr⟩ := h
    refine ⟨origin, _, horigin, rfl, fun now => ?_⟩
    calc (r.apply u o.now).timeless
        = ((origin.apply saved now).apply u now).timeless :=
          Record.timeless_apply_congr (hr now) u o.now now
      _ = (origin.apply (saved.merge u) now).timeless := Record.timeless_apply_apply ..

theorem IsStored.timeless_eq {given : Occasion → Prop} {owner id : String} {prev : Record}
    {saved : Update} {cur : Option Record} (h : IsStored given owner id (some prev) saved cur) :
    ∃ r, cur = some r ∧ r.timeless = (prev.apply saved .epoch).timeless := by
  unfold IsStored at h
  split at h
  · rename_i he
    exact ⟨prev, h, by rw [Update.isEmpty_iff.mp he]; rfl⟩
  · obtain ⟨origin, r, horigin, hcur, hr⟩ := h
    rcases horigin with horigin | ⟨horigin, -⟩
    · cases horigin
      exact ⟨r, hcur, hr .epoch⟩
    · cases horigin

variable {σ : Type}

/-- None of the saves of the table has failed but by being cancelled. -/
def Accepts (id : String) (reps : List SaveReport) : Prop :=
  ∀ rep ∈ reps, rep.request.id = id → rep.failure = none ∨ rep.failure = some .cancelled

instance (id : String) (reps : List SaveReport) : Decidable (Accepts id reps) :=
  inferInstanceAs (Decidable (∀ rep ∈ reps, rep.request.id = id →
    rep.failure = none ∨ rep.failure = some .cancelled))

theorem accepts_cons {id : String} {rep : SaveReport} {reps : List SaveReport} :
    Accepts id (rep :: reps) ↔
      (rep.request.id = id → rep.failure = none ∨ rep.failure = some .cancelled) ∧
        Accepts id reps :=
  List.forall_mem_cons

/-- None of the saves of the table was cancelled. -/
def Completes (id : String) (reps : List SaveReport) : Prop :=
  ∀ rep ∈ reps, rep.request.id = id → rep.failure ≠ some .cancelled

instance (id : String) (reps : List SaveReport) : Decidable (Completes id reps) :=
  inferInstanceAs (Decidable (∀ rep ∈ reps, rep.request.id = id →
    rep.failure ≠ some .cancelled))

variable [TableStore σ] [LawfulStore σ]

/-! ## What the saves have stored -/

/-- The record of a table is what the saves made so far have stored of it after `saved`, unless the
store refused one of them. -/
def Stores (given : Occasion → Prop) (owner id : String) (prev : Option Record) (saved : Update)
    (s : σ) (made : List SaveReport) : Prop :=
  LawfulStore.IsSound s ∧ (Accepts id made →
    IsStored given owner id prev (saved.merge (merged (settled owner id made)))
      (LawfulStore.record? s id))

section

variable {given : Occasion → Prop} {owner id : String} {prev : Option Record} {saved asked : Update}
  {a : Autosaver σ}

/-- A save of the table adds its update to what is stored; a cancelled one changes nothing, nor does
one of another table. -/
theorem survives_stores {o : Occasion} {f : Flight} {r : SaveRequest} (ho : given o)
    (howner : r.id = id → r.owner = owner) (hu : r.update.isEmpty = false) :
    Survives (Stores (σ := σ) given owner id prev saved) o f r := by
  intro s made h
  obtain ⟨hsound, hstored⟩ := h
  constructor
  · intro s' hok
    obtain ⟨-, hsound', hrec⟩ := LawfulStore.save_ok hsound (save_of_attempt hok)
    refine ⟨hsound', fun hacc => ?_⟩
    have hbefore := hstored (accepts_cons.mp hacc).2
    rw [settled_cons, Update.merged_append, ← Update.merge_assoc, hrec]
    by_cases hid : r.id = id
    · have hnew := hbefore.save ho hu
      rw [settled_self ⟨howner hid, hid⟩ (by simp), if_pos hid.symm, hid, howner hid]
      simpa using hnew
    · rw [settled_other fun hfor => hid hfor.2, if_neg (Ne.symm hid)]
      exact hbefore
  · intro e hfail
    refine ⟨hsound, fun hacc => ?_⟩
    obtain ⟨hthis, hothers⟩ := accepts_cons.mp hacc
    have hnothing : settled owner id [⟨r, some e⟩] = [] := by
      by_cases hid : r.id = id
      · obtain rfl : e = .cancelled := by simpa using hthis hid
        exact settled_cancelled r
      · exact settled_other fun hfor => hid hfor.2
    rw [settled_cons, hnothing, List.append_nil]
    exact hstored hothers

/-! ## Runs -/

/-- What was asked for a table is stored, but for what waits. -/
structure Delivery (given : Occasion → Prop) (owner id : String) (prev : Option Record)
    (asked : Update) (a : Autosaver σ) : Prop where
  isSound : LawfulStore.IsSound a.store
  single : countFor owner id a.pending ≤ 1
  kept : ∃ saved, asked = saved.merge (merged (wanted owner id a.waiting)) ∧
    IsStored given owner id prev saved (LawfulStore.record? a.store id)

theorem Delivery.start {s : σ} (hs : LawfulStore.IsSound s) :
    Delivery given owner id (LawfulStore.record? s id) {} ({ store := s } : Autosaver σ) :=
  ⟨hs, Nat.zero_le 1, {}, rfl, IsStored.nothing ..⟩

/-- The batches that the ledger counts as settled are those that the saves have stored. -/
theorem Delivery.run (es : List Event) (h : Delivery given owner id prev asked a)
    (hgiven : ∀ o ∈ occasions es, given o) (howner : IsOwned owner id (a.waiting ++ a.scheduled es))
    (hacc : Accepts id (since a (a.run es))) :
    Delivery given owner id prev (asked.merge (merged (wanted owner id (a.scheduled es))))
      (a.run es) := by
  obtain ⟨hsound, hsingle, saved, hasked, hstored⟩ := h
  obtain ⟨hsound', hstored'⟩ : Stores given owner id prev saved (a.run es).store
      (since a (a.run es)) :=
    run_preserves
      (fun o _ _ hcan => survives_stores (hgiven o hcan.occasion) (hcan.owner_eq howner)
        hcan.something)
      ⟨hsound, fun _ => hstored⟩
  obtain ⟨-, -, hsingle', batches, held, hbatches, hheld, hall⟩ := (Ledger.start hsingle).run es
  refine ⟨hsound', hsingle', saved.merge (merged (settled owner id (since a (a.run es)))), ?_,
    hstored' hacc⟩
  calc asked.merge (merged (wanted owner id (a.scheduled es)))
      = saved.merge (merged (wanted owner id a.waiting ++ wanted owner id (a.scheduled es))) := by
        rw [hasked, Update.merge_assoc, Update.merged_append]
    _ = (saved.merge (merged (settled owner id (since a (a.run es))))).merge
          (merged (wanted owner id (a.run es).waiting)) := by
        rw [hall, Update.merged_append, Update.merged_append, Update.merged_flatten, hbatches,
          hheld, List.nil_append, waiting, wanted_append, Update.merged_append]
        simp only [Update.merge_assoc]

/-- After a dispatch in which no save of the table was cancelled, with nothing left unread, all of
its updates are in the store. -/
theorem Delivery.stored {e : Event} (h : Delivery given owner id prev asked (a.step e))
    (hdispatch : a.Dispatches e)
    (hread : updatesFor id ((a.step e).inbox.filterMap Message.request?) = [])
    (hmade : Completes id (since a (a.step e))) :
    IsStored given owner id prev asked (LawfulStore.record? (a.step e).store id) := by
  obtain ⟨-, -, saved, hasked, hstored⟩ := h
  have hnothing : wanted owner id (a.step e).waiting = [] := by
    refine wanted_of_not_isFor fun r hr hfor => ?_
    rcases List.mem_append.mp hr with hpending | hunread
    · exact hmade _ (cancelled_of_dispatches hdispatch hpending) hfor.2 rfl
    · exact updatesFor_eq_nil_iff.mp hread r hunread hfor.2
  have hall : asked = saved := by simpa [hnothing] using hasked
  exact hall ▸ hstored

end

/-- Whatever is asked for, in whatever order the requests, the messages heard, the dispatches and
the cancellations come: after a dispatch that leaves nothing unread and cancels nothing, every table
that was to be changed has the text, the trimmed name and the query that were asked for last, or the
ones it had where none was asked for. So it is what its updates make of it one after the other, as
they were sent. Every other table is what it was. -/
theorem every_update_is_saved {s : σ} (hs : LawfulStore.IsSound s) (es : List Event) (last : Event)
    (owner id : String) {a b : Autosaver σ} (ha : a = run { store := s } es) (hb : b = a.step last)
    (hdispatch : a.Dispatches last) (hread : b.inbox = [])
    (hmade : Completes id (since a b))
    (howner : IsOwned owner id (scheduled { store := s } (es ++ [last])))
    (haccepts : Accepts id b.reports) :
    let asked := updatesFor id (scheduled { store := s } (es ++ [last]))
    if asked.all Update.isEmpty then LawfulStore.record? b.store id = LawfulStore.record? s id
    else ∃ origin r,
      IsOrigin (· ∈ occasions (es ++ [last])) owner id (LawfulStore.record? s id) origin ∧
        LawfulStore.record? b.store id = some r ∧
        r.csv = (asked.filterMap Update.csv).getLast?.getD origin.csv ∧
        r.name = ((asked.filterMap Update.name).getLast?.map Record.trimmedName).getD origin.name ∧
        r.querySpec = (asked.filterMap Update.querySpec).getLast?.getD origin.querySpec ∧
        ∀ now, r.timeless = (origin.applyAll asked now).timeless := by
  intro asked
  have hrun : run { store := s } (es ++ [last]) = b := by
    rw [run_append, ← ha, hb]
    rfl
  have hdelivery : Delivery (· ∈ occasions (es ++ [last])) owner id (LawfulStore.record? s id)
      (merged asked) b := by
    have hstart : Delivery (· ∈ occasions (es ++ [last])) owner id (LawfulStore.record? s id) {}
        ({ store := s } : Autosaver σ) := Delivery.start hs
    have h := hstart.run (es ++ [last]) (fun _ ho => ho) (by simpa [waiting] using howner)
      (by simpa [hrun, since] using haccepts)
    rwa [hrun, Update.empty_merge, merged_wanted howner] at h
  rw [hb] at hread hdelivery hmade ⊢
  have hstored := hdelivery.stored hdispatch (by simp [hread]) hmade
  unfold IsStored at hstored
  rw [Update.isEmpty_merged] at hstored
  split
  · rename_i he
    rwa [if_pos he] at hstored
  · rename_i he
    rw [if_neg he] at hstored
    obtain ⟨origin, r, horigin, hr, happlied⟩ := hstored
    have htimeless : ∀ now, r.timeless = (origin.applyAll asked now).timeless := fun now =>
      (happlied now).trans (Record.timeless_applyAll origin asked now).symm
    obtain ⟨hcsv, hname, hspec⟩ := Record.fields_of_timeless (htimeless .epoch)
    exact ⟨origin, r, horigin, hr, hcsv.trans (Record.csv_applyAll ..),
      hname.trans (Record.name_applyAll ..), hspec.trans (Record.querySpec_applyAll ..), htimeless⟩

/-- A new table whose name is sent while its text is being saved. -/
def renamedInFlight : List Event :=
  [.schedule ⟨"ada", "t", { csv := some "a" }⟩, .askFlush,
    .plan [{ arrivals := [⟨"ada", "t", { name := some " b " }⟩] }],
    .receive { now := .epoch }, .receive { now := .epoch }, .receive { now := .epoch }]

theorem every_update_is_saved_of_renamedInFlight :
    let es := renamedInFlight ++ [.dispatch { now := .epoch }]
    ∃ r, LawfulStore.record? (run ({ store := {} } : Autosaver MemoryStore) es).store "t" = some r ∧
      r.csv = "a" ∧ r.name = "b" ∧ r.querySpec = "" := by
  obtain ⟨origin, r, horigin, hr, hcsv, hname, hspec, -⟩ :=
    every_update_is_saved (σ := MemoryStore) (s := {}) trivial renamedInFlight
      (.dispatch { now := .epoch }) "ada" "t" rfl rfl trivial (by rfl) (by decide +kernel)
      (by decide +kernel) (by decide +kernel)
  have hnew : LawfulStore.record? ({} : MemoryStore) "t" = none := rfl
  obtain ⟨o, -, rfl⟩ : ∃ o, o ∈ occasions (renamedInFlight ++ [.dispatch { now := .epoch }]) ∧
      origin = .fresh o "ada" "t" :=
    (horigin.resolve_left (by simp [hnew])).2
  have htrimmed : Record.trimmedName " b " = "b" := by decide
  exact ⟨r, hr, hcsv.trans rfl, hname.trans htrimmed, hspec.trans rfl⟩

end FormulaSheet.Autosaver
