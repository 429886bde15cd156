import FormulaSheet.Proofs.Autosave.Holding

/-!
What a flush makes certain. When it returns, all updates that waited when it was asked for are in
saves that the store accepted or refused, except for those whose save was cancelled in the very
dispatch of the flush: they wait again, and the flush returns all the same.
-/

namespace FormulaSheet.Autosaver

open Update (merged)

variable {σ : Type} [TableStore σ]

/-! ## What the reports tell -/

/-- Saves that lead from one state of the store to another, the latest first: what is reported
without a failure was accepted by the store, and nothing else has changed it. -/
inductive Made : σ → List SaveReport → σ → Prop
  | nothing (s : σ) : Made s [] s
  | committed {s s' s'' : σ} {reps : List SaveReport} {o : Occasion} {f : Flight}
      {r : SaveRequest} : Made s reps s' → attempt o f r s' = .ok s'' →
      Made s (⟨r, none⟩ :: reps) s''
  | failed {s s' : σ} {reps : List SaveReport} {o : Occasion} {f : Flight} {r : SaveRequest}
      {e : Error} : Made s reps s' → attempt o f r s' = .error e →
      Made s (⟨r, some e⟩ :: reps) s'

theorem survives_made (s₀ : σ) (o : Occasion) (f : Flight) (r : SaveRequest) :
    Survives (fun s made => Made s₀ made s) o f r :=
  fun _ _ h => ⟨fun _ hok => .committed h hok, fun _ hfail => .failed h hfail⟩

theorem made_run (a : Autosaver σ) (es : List Event) :
    Made a.store (since a (a.run es)) (a.run es).store :=
  run_preserves (P := fun s made => Made a.store made s)
    (fun o f r _ => survives_made a.store o f r) (Made.nothing a.store)

/-! ## Messages are heard in their order -/

/-- How many messages are heard in a step. -/
def hears (a : Autosaver σ) : Event → Nat
  | .receive _ => if a.inbox.isEmpty then 0 else 1
  | _ => 0

/-- How many messages are heard in a run. -/
def heard (a : Autosaver σ) : List Event → Nat
  | [] => 0
  | e :: es => a.hears e + heard (a.step e) es

/-- The messages of a step join the channel at its end, and hearing one takes it off the front. -/
theorem inbox_step (a : Autosaver σ) (e : Event) : ∃ messages : List Message,
    messages.filterMap Message.request? = a.sent e ∧
      a.hears e ≤ (a.inbox ++ messages).length ∧
      (a.step e).inbox = (a.inbox ++ messages).drop (a.hears e) := by
  cases e with
  | schedule r => exact ⟨[.save r], rfl, Nat.zero_le _, rfl⟩
  | askFlush => exact ⟨[.flush], rfl, Nat.zero_le _, rfl⟩
  | plan fs => exact ⟨[], rfl, Nat.zero_le _, (List.append_nil _).symm⟩
  | dispatch o =>
    refine ⟨(a.sent (.dispatch o)).map .save, Message.requests_saves _, Nat.zero_le _, ?_⟩
    exact saveAll_inbox o a.due { a with pending := [] }
  | receive o =>
    refine ⟨(a.sent (.receive o)).map .save, Message.requests_saves _, ?_⟩
    cases hi : a.inbox with
    | nil => simp [hears, step, receive, sent, hi]
    | cons m rest =>
      have hone : a.hears (.receive o) = 1 := by simp [hears, hi]
      rw [hone, List.cons_append, List.drop_one, List.tail_cons]
      refine ⟨by simp, ?_⟩
      cases m with
      | save r => simp [step, receive, hi, sent]
      | flush =>
        have hhead : a.inbox.head? = some .flush := by simp [hi]
        have hdispatch := saveAll_inbox o a.due { a with inbox := rest, pending := [] }
        rw [sent, if_pos hhead, step, receive_flush o hhead, hi, List.tail_cons]
        exact hdispatch

theorem inbox_run (a : Autosaver σ) (es : List Event) : ∃ messages : List Message,
    messages.filterMap Message.request? = a.scheduled es ∧
      a.heard es ≤ (a.inbox ++ messages).length ∧
      (a.run es).inbox = (a.inbox ++ messages).drop (a.heard es) := by
  induction es generalizing a with
  | nil => exact ⟨[], rfl, Nat.zero_le _, (List.append_nil _).symm⟩
  | cons e es ih =>
    obtain ⟨first, hfirst, hle, hinbox⟩ := inbox_step a e
    obtain ⟨later, hlater, hle', hinbox'⟩ := ih (a.step e)
    rw [hinbox] at hle' hinbox'
    refine ⟨first ++ later, by simp [scheduled, hfirst, hlater], ?_, ?_⟩
    · simp only [List.length_append, List.length_drop] at hle hle' ⊢
      rw [heard]
      omega
    · rw [run_cons, hinbox', heard, ← List.drop_drop, ← List.append_assoc,
        List.drop_append_of_le_length hle]

/-- When everything before a flush is heard, the flush comes next, and behind it is what was asked
for since. -/
theorem inbox_of_heard {a : Autosaver σ} {es : List Event}
    (h : heard (a.step .askFlush) es = a.inbox.length) : ∃ later,
    ((a.step .askFlush).run es).inbox = .flush :: later ∧
      later.filterMap Message.request? = (a.step .askFlush).scheduled es := by
  obtain ⟨later, hlater, -, hinbox⟩ := inbox_run (a.step .askFlush) es
  have hasked : (a.step .askFlush).inbox = a.inbox ++ [.flush] := rfl
  refine ⟨later, ?_, hlater⟩
  rw [hinbox, h, hasked, List.append_assoc, List.drop_left]
  rfl

/-- A flush is asked for, whatever happens until it is heard happens, and the flush returns. Then of
every owner's updates for every table that waited when it was asked for, each is part of a save that
was made since and that the store accepted or refused for good, in the order in which they had been
asked for; but for the last of them, if the save that they were merged into was cancelled in the
dispatch of the flush: these wait again. -/
theorem flush_settles (s : σ) (before after : List Event) (o : Occasion) (owner id : String)
    {a b c : Autosaver σ} (ha : a = run { store := s } before)
    (hb : b = (a.step .askFlush).run after)
    (hheard : (a.step .askFlush).heard after = a.inbox.length) (hc : c = b.step (.receive o)) :
    Made a.store (since a c) c.store ∧
      ∃ (batches : List (List Update)) (held : List Update),
        wanted owner id a.waiting = batches.flatten ++ held ∧
        batches.map merged = settled owner id (since a c) ∧
        (held = [] ∨ ∃ r ∈ c.pending, IsFor owner id r ∧ r.update = merged held ∧
          ⟨r, some .cancelled⟩ ∈ since b c) := by
  obtain ⟨later, hinbox, hlater⟩ := inbox_of_heard hheard
  rw [← hb] at hinbox
  have hrun : c = a.run (.askFlush :: after ++ [.receive o]) := by
    rw [hc, hb, List.cons_append, run_cons, run_append]
    rfl
  have hdispatch : b.Dispatches (.receive o) := by simp [Dispatches, hinbox]
  have hsingle : countFor owner id a.pending ≤ 1 := by
    have hempty : Ledger owner id ({ store := s } : Autosaver σ) [] [] { store := s } :=
      Ledger.start (Nat.zero_le 1)
    simpa [ha] using (hempty.run before).single
  refine ⟨hrun ▸ made_run a _, ?_⟩
  have hstart : Ledger owner id a (wanted owner id a.waiting) [] (a.step .askFlush) := by
    simpa [sent] using (Ledger.start hsingle).step (e := .askFlush)
  have hflush := (hstart.run after).step (e := .receive o)
  rw [← hb] at hflush
  obtain ⟨batches, held, hbatches, hasked, hheld⟩ := hflush.held_of_dispatches hdispatch
  rw [← hc] at hbatches hasked hheld
  refine ⟨batches, held, ?_, hbatches, hheld⟩
  -- what is in the channel now was asked for since
  have hunheard : c.inbox.filterMap Message.request? =
      (a.step .askFlush).scheduled after ++ b.sent (.receive o) := by
    obtain ⟨messages, hmessages, -, hrest⟩ := inbox_step b (.receive o)
    have hone : b.hears (.receive o) = 1 := by simp [hears, hinbox]
    rw [hc, hrest, hone, hinbox, List.cons_append, List.drop_one, List.tail_cons,
      List.filterMap_append, hlater, hmessages]
  rw [hunheard, wanted_append, List.append_assoc] at hasked
  exact List.append_cancel_right hasked

/-- A table is changed, and while the change is being saved its name is changed too. -/
def changedTwice : List Event :=
  [.schedule ⟨"ada", "t", { csv := some "a" }⟩,
    .plan [{ arrivals := [⟨"ada", "t", { name := some "b" }⟩] }]]

theorem flush_settles_changedTwice :
    let a := run ({ store := {} } : Autosaver MemoryStore) changedTwice
    let b := (a.step .askFlush).run [.receive { now := .epoch }]
    let c := b.step (.receive { now := .epoch })
    (a.step .askFlush).heard [.receive { now := .epoch }] = a.inbox.length ∧
      Made a.store (since a c) c.store ∧
      ∃ (batches : List (List Update)) (held : List Update),
        [({ csv := some "a" } : Update)] = batches.flatten ++ held ∧
        batches.map merged = settled "ada" "t" (since a c) ∧
        (held = [] ∨ ∃ r ∈ c.pending, IsFor "ada" "t" r ∧ r.update = merged held ∧
          ⟨r, some .cancelled⟩ ∈ since b c) :=
  ⟨by decide +kernel, flush_settles (σ := MemoryStore) {} changedTwice
    [.receive { now := .epoch }] { now := .epoch } "ada" "t" rfl rfl (by decide +kernel) rfl⟩

/-- A flush can return while an update that waited for it is neither in the store nor refused: its
save was cancelled, and it waits for the next dispatch. -/
theorem flush_leaves_cancelled :
    let a := run ({ store := {} } : Autosaver MemoryStore) changedTwice
    let c := a.flush { now := .epoch }
    LawfulStore.record? c.store "t" = none ∧
      c.pending = [⟨"ada", "t", { csv := some "a" }⟩] ∧
      ¬ ∃ batches : List (List Update), wanted "ada" "t" a.waiting = batches.flatten ∧
        batches.map merged = settled "ada" "t" (since a c) := by
  have hwanted : wanted "ada" "t" (run ({ store := {} } : Autosaver MemoryStore)
      changedTwice).waiting = [{ csv := some "a" }] := by decide +kernel
  have hsettled : settled "ada" "t" (since (run ({ store := {} } : Autosaver MemoryStore)
      changedTwice) ((run ({ store := {} } : Autosaver MemoryStore) changedTwice).flush
        { now := .epoch })) = [] := by decide +kernel
  refine ⟨by decide +kernel, by decide +kernel, ?_⟩
  rintro ⟨batches, hbatches, hmerged⟩
  rw [hsettled, List.map_eq_nil_iff] at hmerged
  rw [hwanted, hmerged] at hbatches
  simp at hbatches

end FormulaSheet.Autosaver
