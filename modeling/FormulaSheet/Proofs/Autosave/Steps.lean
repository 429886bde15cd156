import FormulaSheet.Proofs.Autosave.Merging

/-!
The saver as a system that takes one step after another. Its flights say what happens during every
single save: which requests arrive, whether it is cancelled, whether the store fails. So the runs
of `step` are all orders in which requests, messages heard, dispatches and cancellations can come;
what the saver does after a quiet moment, when it is flushed and when it is closed is among them
(`timeout_eq_run`, `flush_eq_run`, `close_eq_run`). The other lemmas tell what one save and what a
whole dispatch do to queue, channel and reports.
-/

namespace FormulaSheet

/-- The request of a message that is one. -/
@[simp] def Message.request? : Message → Option SaveRequest
  | .save r => some r
  | .flush => none

theorem Message.requests_saves (rs : List SaveRequest) :
    (rs.map Message.save).filterMap Message.request? = rs := by
  induction rs with
  | nil => rfl
  | cons r rs ih => simpa [Message.request?] using ih

namespace Autosaver

/-- What can happen to a saver: a save is asked for or a flush is; it turns out what the coming
saves will meet with; the worker hears a message; or it saves what waits, as it does after a quiet
moment and when nobody is left who could ask. A request that comes too late to cancel the save under
way is one of those that come during the next. -/
inductive Event where
  | schedule (r : SaveRequest)
  | askFlush
  | plan (flights : List Flight)
  | receive (o : Occasion)
  | dispatch (o : Occasion)

def Event.occasion? : Event → Option Occasion
  | .receive o | .dispatch o => some o
  | _ => none

/-- The occasions on which something can be saved. -/
def occasions (es : List Event) : List Occasion := es.filterMap Event.occasion?

variable {σ : Type}

/-- The requests that wait or were not heard yet, in their order. -/
def waiting (a : Autosaver σ) : List SaveRequest :=
  a.pending ++ a.inbox.filterMap Message.request?

/-- What a dispatch saves. -/
def due (a : Autosaver σ) : List SaveRequest := a.pending.filter fun r => !r.update.isEmpty

/-- The saves that were made between two states, the latest first. -/
def since (a b : Autosaver σ) : List SaveReport :=
  b.reports.take (b.reports.length - a.reports.length)

theorem since_eq {a b : Autosaver σ} {made : List SaveReport}
    (h : b.reports = made ++ a.reports) : since a b = made := by
  simp [since, h]

theorem since_append {a b c : Autosaver σ} (hab : a.reports <:+ b.reports)
    (hbc : b.reports <:+ c.reports) : since a c = since b c ++ since a b := by
  obtain ⟨first, hfirst⟩ := hab
  obtain ⟨second, hsecond⟩ := hbc
  rw [since_eq hsecond.symm, since_eq hfirst.symm]
  exact since_eq (by rw [← hsecond, ← hfirst, List.append_assoc])

/-- What will happen during the next save. -/
def nextFlight (a : Autosaver σ) : Flight := a.flights.headD {}

/-- The requests that arrive during so many saves. -/
def arrivals (n : Nat) (fs : List Flight) : List SaveRequest :=
  (fs.take n).flatMap Flight.arrivals

@[simp] theorem arrivals_zero (fs : List Flight) : arrivals 0 fs = [] := rfl

theorem arrivals_succ (n : Nat) (a : Autosaver σ) :
    arrivals (n + 1) a.flights = a.nextFlight.arrivals ++ arrivals n a.flights.tail := by
  unfold nextFlight
  cases a.flights with
  | nil => simp [arrivals]
  | cons f fs => simp [arrivals]

/-- The requests that are sent in a step. -/
def sent (a : Autosaver σ) : Event → List SaveRequest
  | .schedule r => [r]
  | .askFlush | .plan _ => []
  | .receive _ => if a.inbox.head? = some .flush then arrivals a.due.length a.flights else []
  | .dispatch _ => arrivals a.due.length a.flights

/-- Whether a step is a dispatch. -/
def Dispatches (a : Autosaver σ) : Event → Prop
  | .receive _ => a.inbox.head? = some .flush
  | .dispatch _ => True
  | _ => False

variable [TableStore σ]

def step (a : Autosaver σ) : Event → Autosaver σ
  | .schedule r => a.schedule r
  | .askFlush => { a with inbox := a.inbox ++ [.flush] }
  | .plan fs => { a with flights := fs }
  | .receive o => a.receive o
  | .dispatch o => a.dispatch o

def run (a : Autosaver σ) (es : List Event) : Autosaver σ := es.foldl step a

/-- The requests that are sent in a run, in their order. -/
def scheduled (a : Autosaver σ) : List Event → List SaveRequest
  | [] => []
  | e :: es => a.sent e ++ scheduled (a.step e) es

@[simp] theorem run_nil (a : Autosaver σ) : a.run [] = a := rfl

@[simp] theorem run_cons (a : Autosaver σ) (e : Event) (es : List Event) :
    a.run (e :: es) = (a.step e).run es := rfl

theorem run_append (a : Autosaver σ) (es es' : List Event) :
    a.run (es ++ es') = (a.run es).run es' := List.foldl_append

/-! ## One save -/

theorem save_of_attempt {o : Occasion} {f : Flight} {r : SaveRequest} {s s' : σ}
    (h : attempt o f r s = .ok s') :
    TableStore.save o r.owner r.id r.update (f.cancels r.id) s = .ok s' := by
  unfold attempt at h
  split at h
  · cases h
  · exact h

/-- A save succeeds and changes the store, or fails and, when it was cancelled, waits again. Either
way it is reported, and what arrives meanwhile stands in the channel. -/
theorem saveOne_cases (o : Occasion) (a : Autosaver σ) (r : SaveRequest) :
    (∃ s, attempt o a.nextFlight r a.store = .ok s ∧
      saveOne o a r =
        { store := s, pending := a.pending
          inbox := a.inbox ++ a.nextFlight.arrivals.map .save
          flights := a.flights.tail, reports := ⟨r, none⟩ :: a.reports }) ∨
    ∃ e, attempt o a.nextFlight r a.store = .error e ∧
      saveOne o a r =
        { store := a.store
          pending := if e = .cancelled then a.pending ++ [r] else a.pending
          inbox := a.inbox ++ a.nextFlight.arrivals.map .save
          flights := a.flights.tail, reports := ⟨r, some e⟩ :: a.reports } := by
  cases h : attempt o a.nextFlight r a.store with
  | ok s => exact .inl ⟨s, rfl, by unfold nextFlight at h ⊢; simp only [saveOne, h]⟩
  | error e => exact .inr ⟨e, rfl, by unfold nextFlight at h ⊢; simp only [saveOne, h]⟩

section SaveOne

variable (o : Occasion) (a : Autosaver σ) (r : SaveRequest)

theorem saveOne_inbox :
    (saveOne o a r).inbox = a.inbox ++ a.nextFlight.arrivals.map .save := by
  obtain ⟨s, -, h⟩ | ⟨e, -, h⟩ := saveOne_cases o a r <;> rw [h]

theorem saveOne_flights : (saveOne o a r).flights = a.flights.tail := by
  obtain ⟨s, -, h⟩ | ⟨e, -, h⟩ := saveOne_cases o a r <;> rw [h]

theorem saveOne_reports : ∃ rep, rep.request = r ∧ (saveOne o a r).reports = rep :: a.reports := by
  obtain ⟨s, -, h⟩ | ⟨e, -, h⟩ := saveOne_cases o a r
  · exact ⟨⟨r, none⟩, rfl, by rw [h]⟩
  · exact ⟨⟨r, some e⟩, rfl, by rw [h]⟩

theorem suffix_saveOne : a.reports <:+ (saveOne o a r).reports := by
  obtain ⟨rep, -, h⟩ := saveOne_reports o a r
  exact h ▸ List.suffix_cons rep a.reports

end SaveOne

/-! ## Whole dispatches -/

theorem saveAll_reports (o : Occasion) (todo : List SaveRequest) (a : Autosaver σ) :
    a.reports <:+ (todo.foldl (saveOne o) a).reports := by
  induction todo generalizing a with
  | nil => exact List.suffix_refl _
  | cons r todo ih => exact (suffix_saveOne o a r).trans (ih _)

/-- What waits after some saves waited before, or its save was cancelled and reported so. -/
theorem cancelled_of_mem_pending (o : Occasion) (todo : List SaveRequest) (a : Autosaver σ)
    {p : SaveRequest} (hp : p ∈ (todo.foldl (saveOne o) a).pending) :
    p ∈ a.pending ∨ ⟨p, some .cancelled⟩ ∈ since a (todo.foldl (saveOne o) a) := by
  induction todo generalizing a with
  | nil => exact .inl hp
  | cons r todo ih =>
    rw [List.foldl_cons] at hp ⊢
    rw [since_append (suffix_saveOne o a r) (saveAll_reports ..), List.mem_append]
    rcases ih (saveOne o a r) hp with hp | hlater
    · obtain ⟨s, -, h⟩ | ⟨e, -, h⟩ := saveOne_cases o a r
      · rw [h] at hp
        exact .inl hp
      · by_cases he : e = .cancelled
        · subst he
          have hmade : since a (saveOne o a r) = [⟨r, some .cancelled⟩] :=
            since_eq (by rw [h]; rfl)
          rw [h, if_pos rfl] at hp
          rcases List.mem_append.mp hp with hp | hp
          · exact .inl hp
          · rw [List.mem_singleton.mp hp, hmade]
            exact .inr (.inr List.mem_cons_self)
        · rw [h, if_neg he] at hp
          exact .inl hp
    · exact .inr (.inl hlater)

theorem receive_flush (o : Occasion) {a : Autosaver σ} (h : a.inbox.head? = some .flush) :
    a.receive o = dispatch o { a with inbox := a.inbox.tail } := by
  obtain ⟨store, pending, inbox, flights, reports⟩ := a
  cases inbox with
  | nil => simp at h
  | cons m rest =>
    simp only [List.head?_cons, Option.some.injEq] at h
    subst h
    rfl

theorem dispatch_reports (o : Occasion) (a : Autosaver σ) :
    a.reports <:+ (a.dispatch o).reports :=
  saveAll_reports o a.due { a with pending := [] }

/-- A step that is a dispatch is one from the state whose flush, if that was asked for, is heard. -/
theorem step_of_dispatches {a : Autosaver σ} {e : Event} (h : a.Dispatches e) :
    ∃ o inbox, e.occasion? = some o ∧ a.step e = dispatch o { a with inbox := inbox } ∧
      inbox.filterMap Message.request? = a.inbox.filterMap Message.request? ∧
      a.sent e = arrivals a.due.length a.flights := by
  cases e with
  | schedule r => exact absurd h id
  | askFlush => exact absurd h id
  | plan fs => exact absurd h id
  | dispatch o => exact ⟨o, a.inbox, rfl, rfl, rfl, rfl⟩
  | receive o =>
    have h : a.inbox.head? = some .flush := h
    refine ⟨o, a.inbox.tail, rfl, receive_flush o h, ?_, by simp [sent, h]⟩
    cases hi : a.inbox with
    | nil => rfl
    | cons m rest =>
      obtain rfl : m = .flush := by simpa [hi] using h
      rfl

/-- Hearing anything but a flush moves a request into the queue, if there is one to hear. -/
theorem receive_cases {o : Occasion} {a : Autosaver σ} (h : ¬ a.Dispatches (.receive o)) :
    a.step (.receive o) = a ∨ ∃ r rest, a.inbox = .save r :: rest ∧
      a.step (.receive o) = { a with inbox := rest, pending := enqueue r a.pending } := by
  cases hi : a.inbox with
  | nil => exact .inl (by simp [step, receive, hi])
  | cons m rest =>
    cases m with
    | save r => exact .inr ⟨r, rest, rfl, by simp [step, receive, hi]⟩
    | flush => exact absurd (by simp [Dispatches, hi]) h

/-- Any step but a dispatch leaves store and reports alone. -/
theorem step_of_not_dispatches {a : Autosaver σ} {e : Event} (h : ¬ a.Dispatches e) :
    (a.step e).store = a.store ∧ (a.step e).reports = a.reports := by
  cases e with
  | schedule r => exact ⟨rfl, rfl⟩
  | askFlush => exact ⟨rfl, rfl⟩
  | plan fs => exact ⟨rfl, rfl⟩
  | dispatch o => exact absurd trivial h
  | receive o =>
    obtain hstay | ⟨r, rest, -, hheard⟩ := receive_cases h
    · simp [hstay]
    · simp [hheard]

theorem step_reports (a : Autosaver σ) (e : Event) : a.reports <:+ (a.step e).reports := by
  by_cases h : a.Dispatches e
  · obtain ⟨o, inbox, -, hstep, -⟩ := step_of_dispatches h
    rw [hstep]
    exact dispatch_reports o { a with inbox := inbox }
  · exact (step_of_not_dispatches h).2 ▸ List.suffix_refl _

theorem run_reports (a : Autosaver σ) (es : List Event) : a.reports <:+ (a.run es).reports := by
  induction es generalizing a with
  | nil => exact List.suffix_refl _
  | cons e es ih => exact (step_reports a e).trans (ih _)

/-- After a dispatch nothing waits but what was cancelled in it. -/
theorem cancelled_of_dispatches {a : Autosaver σ} {e : Event} (h : a.Dispatches e)
    {p : SaveRequest} (hp : p ∈ (a.step e).pending) :
    ⟨p, some .cancelled⟩ ∈ since a (a.step e) := by
  obtain ⟨o, inbox, -, hstep, -⟩ := step_of_dispatches h
  rw [hstep] at hp
  rw [hstep]
  exact (cancelled_of_mem_pending o a.due { a with inbox := inbox, pending := [] } hp).resolve_left
    List.not_mem_nil

/-! ## Whose requests wait -/

theorem mem_waiting_saveOne {o : Occasion} {a : Autosaver σ} {r p : SaveRequest}
    (hp : p ∈ (saveOne o a r).waiting) :
    p = r ∨ p ∈ a.waiting ++ a.nextFlight.arrivals := by
  obtain ⟨s, -, h⟩ | ⟨e, -, h⟩ := saveOne_cases o a r
  · rw [h] at hp
    simp only [waiting, List.filterMap_append, Message.requests_saves, List.mem_append] at hp ⊢
    grind
  · have hpending : p ∈ (saveOne o a r).pending → p ∈ a.pending ∨ p = r := by
      rw [h]
      by_cases he : e = .cancelled
      · simp [he]
      · simpa [he] using Or.inl
    simp only [waiting, saveOne_inbox, List.filterMap_append, Message.requests_saves,
      List.mem_append] at hp ⊢
    grind

theorem mem_waiting_saveAll {o : Occasion} {todo : List SaveRequest} {a : Autosaver σ}
    {p : SaveRequest} (hp : p ∈ (todo.foldl (saveOne o) a).waiting) :
    p ∈ todo ∨ p ∈ a.waiting ++ arrivals todo.length a.flights := by
  induction todo generalizing a with
  | nil => simpa using hp
  | cons r todo ih =>
    rw [List.length_cons, arrivals_succ]
    rcases ih hp with hp | hp
    · simp [hp]
    · rw [saveOne_flights, List.mem_append] at hp
      rcases hp with hp | hp
      · rcases mem_waiting_saveOne hp with rfl | hp
        · simp
        · grind
      · simp [hp]

/-- What waits after a step bears the table and the owner of a request that waited or was sent. -/
theorem mem_waiting_step {a : Autosaver σ} {e : Event} {p : SaveRequest}
    (hp : p ∈ (a.step e).waiting) :
    ∃ q ∈ a.waiting ++ a.sent e, p.id = q.id ∧ p.owner = q.owner := by
  by_cases h : a.Dispatches e
  · obtain ⟨o, inbox, -, hstep, hinbox, hsent⟩ := step_of_dispatches h
    rw [hstep] at hp
    refine ⟨p, ?_, rfl, rfl⟩
    rcases mem_waiting_saveAll hp with hp | hp
    · have hp : p ∈ a.pending := (List.mem_filter.mp hp).1
      simp [waiting, hp]
    · simpa [waiting, hinbox, hsent, due] using Or.inr hp
  · cases e with
    | schedule r =>
      refine ⟨p, ?_, rfl, rfl⟩
      simpa [step, schedule, waiting, sent, Message.request?, or_assoc] using hp
    | askFlush =>
      refine ⟨p, ?_, rfl, rfl⟩
      simpa [step, waiting, sent, Message.request?] using hp
    | plan fs => exact ⟨p, by simpa [step, waiting, sent] using hp, rfl, rfl⟩
    | dispatch o => exact absurd trivial h
    | receive o =>
      obtain hstay | ⟨r, rest, hi, hheard⟩ := receive_cases h
      · exact ⟨p, by simpa [hstay] using Or.inl hp, rfl, rfl⟩
      · rw [hheard] at hp
        rcases List.mem_append.mp hp with hp | hp
        · obtain ⟨q, hq, hsame⟩ := mem_enqueue hp
          refine ⟨q, ?_, hsame⟩
          simp only [waiting, hi, List.filterMap_cons, Message.request?, List.mem_append]
          grind
        · have hp : p ∈ rest.filterMap Message.request? := hp
          exact ⟨p, by simp [waiting, hi, hp], rfl, rfl⟩

/-- The requests for a table are all of one owner. -/
def IsOwned (owner id : String) (rs : List SaveRequest) : Prop :=
  ∀ r ∈ rs, r.id = id → r.owner = owner

instance (owner id : String) (rs : List SaveRequest) : Decidable (IsOwned owner id rs) :=
  inferInstanceAs (Decidable (∀ r ∈ rs, r.id = id → r.owner = owner))

theorem IsOwned.step {owner id : String} {a : Autosaver σ} {e : Event}
    (ha : IsOwned owner id a.waiting) (hsent : IsOwned owner id (a.sent e)) :
    IsOwned owner id (a.step e).waiting := by
  intro p hp hid
  obtain ⟨q, hq, hpid, hpowner⟩ := mem_waiting_step hp
  rw [hpowner]
  rcases List.mem_append.mp hq with hq | hq
  · exact ha q hq (hpid ▸ hid)
  · exact hsent q hq (hpid ▸ hid)

theorem IsOwned.run {owner id : String} {a : Autosaver σ} (ha : IsOwned owner id a.waiting)
    (es : List Event) (hes : IsOwned owner id (a.scheduled es)) :
    IsOwned owner id (a.run es).waiting := by
  induction es generalizing a with
  | nil => exact ha
  | cons e es ih =>
    have hsent : IsOwned owner id (a.sent e) := fun r hr => hes r (by simp [scheduled, hr])
    exact ih (ha.step hsent) fun r hr => hes r (by simp [scheduled, hr])

/-! ## What the program runs -/

theorem receiveUpTo_eq_run (o : Occasion) (n : Nat) (a : Autosaver σ) :
    receiveUpTo o n a = a.run (List.replicate n (.receive o)) := by
  induction n generalizing a with
  | zero => rfl
  | succ n ih =>
    rw [receiveUpTo, List.replicate_succ, run_cons]
    cases h : a.inbox with
    | nil =>
      -- hearing nothing changes nothing, however often it is tried
      have hstay : a.step (.receive o) = a := by simp [step, receive, h]
      rw [hstay, ← ih]
      cases n <;> simp [receiveUpTo, h]
    | cons m rest => simp [step, ih]

/-- A flush asks for a dispatch and hears all messages up to that. -/
def flushEvents (o : Occasion) (a : Autosaver σ) : List Event :=
  .askFlush :: List.replicate a.inbox.length (.receive o) ++ [.receive o]

theorem foldl_schedule_eq_run (rs : List SaveRequest) (a : Autosaver σ) :
    rs.foldl schedule a = a.run (rs.map Event.schedule) := by
  rw [run, List.foldl_map]
  rfl

theorem scheduled_schedules (rs : List SaveRequest) (a : Autosaver σ) :
    a.scheduled (rs.map Event.schedule) = rs := by
  induction rs generalizing a with
  | nil => rfl
  | cons r rs ih => rw [List.map_cons, scheduled, ih]; rfl

theorem timeout_eq_run (o : Occasion) (a : Autosaver σ) :
    a.timeout o = a.run (if a.inbox.isEmpty then [.dispatch o] else []) := by
  unfold timeout
  split <;> rfl

theorem flush_eq_run (o : Occasion) (a : Autosaver σ) : a.flush o = a.run (a.flushEvents o) := by
  rw [flush, receiveUpTo_eq_run, flushEvents, List.cons_append, run_cons, run_append]
  rfl

/-- The last dispatch comes when everything is heard; what was cancelled in it is dropped. -/
theorem close_eq_run (o : Occasion) (a : Autosaver σ) :
    a.close o =
      { a.run (List.replicate a.workload (.receive o) ++
          [.plan ((a.settle o).flights.map fun f => { f with arrivals := [] }), .dispatch o]) with
        pending := [], inbox := [] } := by
  rw [run_append, ← receiveUpTo_eq_run]
  rfl

end Autosaver

end FormulaSheet
