import FormulaSheet.Proofs.Autosave.Delivery

/-!
A store that holds the record of an owner accepts every save of that owner, as long as nothing
fails but the store itself; so the record stays, whoever else has tables saved (`IsHeld.run`). The
requests that a flush leaves unread were all sent during saves (`receiveUpTo_inbox`).
-/

namespace FormulaSheet.Autosaver

/-- During these saves nothing fails from outside, and nobody asks for the table. -/
def IsCalm (id : String) (fs : List Flight) : Prop :=
  ∀ f ∈ fs, f.failure = none ∧ ∀ r ∈ f.arrivals, r.id ≠ id

instance (id : String) (fs : List Flight) : Decidable (IsCalm id fs) :=
  inferInstanceAs (Decidable (∀ f ∈ fs, f.failure = none ∧ ∀ r ∈ f.arrivals, r.id ≠ id))

theorem IsCalm.updatesFor_arrivals {id : String} {fs : List Flight} (h : IsCalm id fs) (n : Nat) :
    updatesFor id (arrivals n fs) = [] := by
  rw [updatesFor_eq_nil_iff]
  intro r hr
  obtain ⟨f, hf, hrf⟩ := List.mem_flatMap.mp hr
  exact (h f (List.mem_of_mem_take hf)).2 r hrf

/-- An event in which nobody asks for the table and nothing fails from outside. -/
def Event.Spares (id : String) : Event → Prop
  | .schedule r => r.id ≠ id
  | .plan fs => IsCalm id fs
  | _ => True

theorem Event.Spares.isCalm {id : String} {e : Event} (h : e.Spares id) : IsCalm id e.flights := by
  cases e with
  | plan fs => exact h
  | schedule r => simp [Event.flights, IsCalm]
  | askFlush => simp [Event.flights, IsCalm]
  | receive o => simp [Event.flights, IsCalm]
  | dispatch o => simp [Event.flights, IsCalm]

variable {σ : Type}

theorem IsCalm.failure_eq_none {id : String} {fs : List Flight} (h : IsCalm id fs) {f : Flight}
    (hf : f = {} ∨ f ∈ fs) : f.failure = none := by
  rcases hf with rfl | hf
  · rfl
  · exact (h f hf).1

variable [TableStore σ]

theorem attempt_eq_save {o : Occasion} {f : Flight} {r : SaveRequest} {s : σ}
    (h : f.failure = none) :
    attempt o f r s = TableStore.save o r.owner r.id r.update (f.cancels r.id) s := by
  rw [attempt, h]

theorem saveAll_inbox (o : Occasion) (todo : List SaveRequest) (a : Autosaver σ) :
    (todo.foldl (saveOne o) a).inbox =
      a.inbox ++ (arrivals todo.length a.flights).map Message.save := by
  induction todo generalizing a with
  | nil => simp
  | cons r todo ih =>
    rw [List.foldl_cons, ih, saveOne_inbox, saveOne_flights, List.length_cons, arrivals_succ]
    simp

theorem step_flights {id : String} {a : Autosaver σ} {e : Event} (ha : IsCalm id a.flights)
    (he : IsCalm id e.flights) : IsCalm id (a.step e).flights := fun f hf =>
  (mem_flights_step hf).elim (ha f) (he f)

/-- Hearing a message takes it out of the channel and puts what arrives meanwhile behind the
others. -/
theorem receive_inbox (o : Occasion) {id : String} {a : Autosaver σ} {m : Message}
    {rest : List Message} (ha : IsCalm id a.flights) (hi : a.inbox = m :: rest) :
    ∃ rs, (a.receive o).inbox = rest ++ rs.map Message.save ∧ updatesFor id rs = [] := by
  unfold receive
  rw [hi]
  cases m with
  | save r => exact ⟨[], by simp, rfl⟩
  | flush => exact ⟨arrivals a.due.length a.flights, saveAll_inbox o _ _, ha.updatesFor_arrivals _⟩

theorem receiveUpTo_inbox (o : Occasion) {id : String} {a : Autosaver σ}
    {before after : List Message} (ha : IsCalm id a.flights) (hi : a.inbox = before ++ after) :
    ∃ rs, (a.receiveUpTo o before.length).inbox = after ++ rs.map Message.save ∧
      updatesFor id rs = [] := by
  induction before generalizing a after with
  | nil => exact ⟨[], by simpa [receiveUpTo] using hi, rfl⟩
  | cons m before ih =>
    obtain ⟨rs, hrs, hspared⟩ := receive_inbox o ha hi
    have hcalm : IsCalm id (a.receive o).flights :=
      step_flights ha (Event.Spares.isCalm (e := .receive o) trivial)
    obtain ⟨rs', hrs', hspared'⟩ :=
      ih hcalm (hrs.trans (List.append_assoc before after (rs.map Message.save)))
    refine ⟨rs ++ rs', ?_, by simp [hspared, hspared']⟩
    rw [List.length_cons, receiveUpTo, if_neg (by simp [hi]), hrs']
    simp

theorem run_flights {id : String} {a : Autosaver σ} {es : List Event} (ha : IsCalm id a.flights)
    (hes : ∀ e ∈ es, IsCalm id e.flights) : IsCalm id (a.run es).flights := by
  induction es generalizing a with
  | nil => exact ha
  | cons e es ih =>
    exact ih (step_flights ha (hes e (by simp))) fun e' he' => hes e' (by simp [he'])

theorem updatesFor_scheduled {id : String} {a : Autosaver σ} (es : List Event)
    (ha : IsCalm id a.flights) (hes : ∀ e ∈ es, e.Spares id) :
    updatesFor id (a.scheduled es) = [] := by
  induction es generalizing a with
  | nil => rfl
  | cons e es ih =>
    have he : e.Spares id := hes e (by simp)
    have hsent : updatesFor id (a.sent e) = [] := by
      cases e with
      | schedule r => exact updatesFor_cons_other he []
      | askFlush => rfl
      | plan fs => rfl
      | receive o =>
        simp only [sent]
        split
        · exact ha.updatesFor_arrivals _
        · rfl
      | dispatch o => exact ha.updatesFor_arrivals _
    rw [scheduled, updatesFor_append, hsent, List.nil_append]
    exact ih (step_flights ha he.isCalm) fun e' he' => hes e' (by simp [he'])

/-- A flush ends with a dispatch, after which nothing for the table is unread. -/
theorem flush_eq_dispatch (o : Occasion) {id : String} {a : Autosaver σ}
    (ha : IsCalm id a.flights) :
    ∃ b : Autosaver σ, b = a.run (.askFlush :: List.replicate a.inbox.length (.receive o)) ∧
      a.flush o = b.step (.receive o) ∧ b.Dispatches (.receive o) ∧
      updatesFor id ((b.step (.receive o)).inbox.filterMap Message.request?) = [] := by
  let asked : Autosaver σ := { a with inbox := a.inbox ++ [.flush] }
  have hcalm : IsCalm id asked.flights := ha
  have hflushed : a.run (.askFlush :: List.replicate a.inbox.length (.receive o)) =
      asked.receiveUpTo o a.inbox.length := (receiveUpTo_eq_run ..).symm
  have hlast : IsCalm id (asked.receiveUpTo o a.inbox.length).flights := by
    rw [receiveUpTo_eq_run]
    refine run_flights hcalm fun e he => ?_
    rw [List.eq_of_mem_replicate he]
    exact Event.Spares.isCalm trivial
  obtain ⟨rs, hrs, hspared⟩ := receiveUpTo_inbox o hcalm rfl
  obtain ⟨rs', hrs', hspared'⟩ := receive_inbox o hlast hrs
  refine ⟨asked.receiveUpTo o a.inbox.length, hflushed.symm, rfl, by simp [Dispatches, hrs], ?_⟩
  have hinbox : ((asked.receiveUpTo o a.inbox.length).step (.receive o)).inbox =
      (rs ++ rs').map Message.save := by
    rw [List.map_append]
    exact hrs'
  rw [hinbox, Message.requests_saves, updatesFor_append, hspared, hspared']
  rfl

variable [LawfulStore σ]

/-- The store holds the owner's record of the table, and nothing fails but the store itself. -/
structure IsHeld (owner id : String) (a : Autosaver σ) : Prop where
  isSound : LawfulStore.IsSound a.store
  held : ∃ r, LawfulStore.record? a.store id = some r ∧ r.owner = owner
  calm : IsCalm id a.flights

/-- The store holds the owner's record of the table and has refused none of its saves. -/
def Holds (owner id : String) (s : σ) (made : List SaveReport) : Prop :=
  LawfulStore.IsSound s ∧ (∃ r, LawfulStore.record? s id = some r ∧ r.owner = owner) ∧
    Accepts id made

/-- The owner's save of the table is accepted, and the record stays the owner's. -/
theorem survives_holds {owner id : String} {o : Occasion} {f : Flight} {r : SaveRequest}
    (hf : f.failure = none) (howner : r.id = id → r.owner = owner) :
    Survives (Holds (σ := σ) owner id) o f r := by
  intro s made h
  obtain ⟨hsound, ⟨old, hold, howned⟩, hacc⟩ := h
  constructor
  · intro s' hok
    obtain ⟨-, hsound', hrec⟩ := LawfulStore.save_ok hsound (save_of_attempt hok)
    refine ⟨hsound', ?_, accepts_cons.mpr ⟨fun _ => .inl rfl, hacc⟩⟩
    rw [hrec]
    by_cases hid : r.id = id
    · subst hid
      have hnew : (LawfulStore.record? s r.id).getD (.fresh o r.owner r.id) = old := by
        rw [hold, Option.getD_some]
      exact ⟨old.apply r.update o.now, by rw [if_pos rfl, hnew], howned⟩
    · exact ⟨old, by rw [if_neg (Ne.symm hid), hold], howned⟩
  · intro e hfail
    refine ⟨hsound, ⟨old, hold, howned⟩, accepts_cons.mpr ⟨fun hid => .inr ?_, hacc⟩⟩
    subst hid
    rw [attempt_eq_save hf] at hfail
    exact congrArg some
      (LawfulStore.save_error hsound hold (howned.trans (howner rfl).symm) hfail)

theorem IsHeld.run {owner id : String} {a : Autosaver σ} (es : List Event) (h : IsHeld owner id a)
    (hes : ∀ e ∈ es, IsCalm id e.flights)
    (howner : IsOwned owner id (a.waiting ++ a.scheduled es)) :
    IsHeld owner id (a.run es) ∧ Accepts id (since a (a.run es)) := by
  obtain ⟨hsound, hheld, hcalm⟩ := h
  obtain ⟨hsound', hheld', hacc⟩ : Holds owner id (a.run es).store (since a (a.run es)) := by
    refine run_preserves (fun o f r hcan => ?_) ⟨hsound, hheld, List.forall_mem_nil _⟩
    have hfails : f.failure = none := by
      rcases hcan.flight with hf | hf | ⟨e, he, hf⟩
      · exact hcalm.failure_eq_none (.inl hf)
      · exact hcalm.failure_eq_none (.inr hf)
      · exact (hes e he).failure_eq_none (.inr hf)
    exact survives_holds hfails (hcan.owner_eq howner)
  exact ⟨⟨hsound', hheld', run_flights hcalm hes⟩, hacc⟩

/-! ## A table that one owner writes -/

/-- The owner's record of a table that was `origin` is there, and what was asked for the table
since then is in it or waits. -/
structure IsKept (owner id : String) (origin : Record) (asked : Update) (a : Autosaver σ) : Prop
    where
  isHeld : IsHeld owner id a
  isOwned : IsOwned owner id a.waiting
  delivery : Delivery (fun _ => True) owner id (some origin) asked a

section

variable {owner id : String} {origin : Record} {asked : Update} {a : Autosaver σ}

theorem IsKept.start (hs : LawfulStore.IsSound a.store)
    (hrec : LawfulStore.record? a.store id = some origin) (howner : origin.owner = owner)
    (hcalm : IsCalm id a.flights) (hidle : ∀ r ∈ a.waiting, r.id ≠ id) :
    IsKept owner id origin {} a := by
  have hnone : wanted owner id a.waiting = [] :=
    wanted_of_not_isFor fun r hr hfor => hidle r hr hfor.2
  have hpending : countFor owner id a.pending = 0 :=
    List.countP_eq_zero.mpr fun r hr => by
      simpa using fun hfor : IsFor owner id r => hidle r (List.mem_append_left _ hr) hfor.2
  refine ⟨⟨hs, ⟨origin, hrec, howner⟩, hcalm⟩, fun r hr hid => absurd hid (hidle r hr),
    hs, hpending.le.trans (Nat.zero_le 1), {}, by simp [hnone], ?_⟩
  rw [hrec]
  exact IsStored.nothing ..

theorem IsKept.run (h : IsKept owner id origin asked a) (es : List Event)
    (hes : ∀ e ∈ es, IsCalm id e.flights) (howner : IsOwned owner id (a.scheduled es)) :
    IsKept owner id origin (asked.merge (Update.merged (updatesFor id (a.scheduled es))))
      (a.run es) := by
  obtain ⟨hheld, howned, hdelivery⟩ := h
  have hall : IsOwned owner id (a.waiting ++ a.scheduled es) := fun r hr =>
    (List.mem_append.mp hr).elim (howned r) (howner r)
  obtain ⟨hheld', hacc⟩ := hheld.run es hes hall
  rw [← merged_wanted howner]
  exact ⟨hheld', howned.run es howner, hdelivery.run es (fun _ _ => trivial) hall hacc⟩

/-- What others do changes nothing. -/
theorem IsKept.run_spared (h : IsKept owner id origin asked a) (es : List Event)
    (hes : ∀ e ∈ es, e.Spares id) : IsKept owner id origin asked (a.run es) := by
  have hnone := updatesFor_scheduled es h.isHeld.calm hes
  have hrun := h.run es (fun e he => (hes e he).isCalm) fun r hr hid =>
    absurd hid (updatesFor_eq_nil_iff.mp hnone r hr)
  rwa [hnone, Update.merged_nil, Update.merge_empty] at hrun

theorem IsKept.flush (h : IsKept owner id origin asked a) (o : Occasion) :
    IsKept owner id origin asked (a.flush o) := by
  rw [flush_eq_run]
  refine h.run_spared _ fun e he => ?_
  rcases List.mem_cons.mp he with rfl | he
  · trivial
  · rcases List.mem_append.mp he with he | he
    · rw [List.eq_of_mem_replicate he]
      trivial
    · rw [List.mem_singleton.mp he]
      trivial

/-- After a flush in which no save of the table was cancelled, everything asked for is in the
record. -/
theorem IsKept.record?_flush (h : IsKept owner id origin asked a) {o : Occasion}
    (hflush : Completes id (since a (a.flush o))) :
    ∃ r, LawfulStore.record? (a.flush o).store id = some r ∧ r.owner = owner ∧
      r.timeless = (origin.apply asked .epoch).timeless := by
  obtain ⟨b, hb, hstep, hdispatch, hread⟩ := flush_eq_dispatch o h.isHeld.calm
  have hkept := h.flush o
  obtain ⟨r', hr', howner⟩ := hkept.isHeld.held
  have hafter : a.reports <:+ b.reports := hb ▸ run_reports ..
  rw [hstep, since_append hafter (step_reports ..)] at hflush
  have hdelivery := hkept.delivery
  rw [hstep] at hdelivery
  have hstored := hdelivery.stored hdispatch hread fun rep hrep =>
    hflush rep (List.mem_append_left _ hrep)
  obtain ⟨r, hr, htimeless⟩ := hstored.timeless_eq
  rw [← hstep] at hr
  obtain rfl : r' = r := Option.some.inj (hr'.symm.trans hr)
  exact ⟨r', hr, howner, htimeless⟩

end

end FormulaSheet.Autosaver
