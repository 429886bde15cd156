import FormulaSheet.Proofs.Autosave.Steps

/-!
The updates of an owner for a table, from the request to the store. They are cut into batches: each
batch was merged into one save that the store accepted or refused, in the order in which they were
asked for, and what is left waits merged into one request (`Ledger`). A cancelled save moves its
batch back to what waits, which changes no order since a dispatch saves a table only once.
-/

namespace FormulaSheet.Autosaver

open Update (merged)

/-! ## The updates of one owner for one table -/

/-- A request of an owner for a table. -/
def IsFor (owner id : String) (r : SaveRequest) : Prop := r.owner = owner ∧ r.id = id

instance (owner id : String) (r : SaveRequest) : Decidable (IsFor owner id r) :=
  inferInstanceAs (Decidable (r.owner = owner ∧ r.id = id))

/-- The updates that an owner asks for a table, in their order. Empty ones ask for nothing. -/
def wanted (owner id : String) (rs : List SaveRequest) : List Update :=
  (rs.filter fun r => IsFor owner id r ∧ r.update.isEmpty = false).map SaveRequest.update

/-- The updates of the saves of a table that were not cancelled, the first one first. The store has
accepted them, or refused them for good. -/
def settled (owner id : String) (reps : List SaveReport) : List Update :=
  (reps.reverse.filter fun rep =>
    IsFor owner id rep.request ∧ rep.failure ≠ some .cancelled).map fun rep => rep.request.update

section

variable {owner id : String}

@[simp] theorem wanted_nil : wanted owner id [] = [] := rfl

@[simp] theorem wanted_append (rs rs' : List SaveRequest) :
    wanted owner id (rs ++ rs') = wanted owner id rs ++ wanted owner id rs' := by
  simp [wanted]

theorem wanted_cons_other {r : SaveRequest} (h : ¬ IsFor owner id r) (rs : List SaveRequest) :
    wanted owner id (r :: rs) = wanted owner id rs := by
  simp [wanted, h]

theorem wanted_cons_empty {r : SaveRequest} (h : r.update.isEmpty = true) (rs : List SaveRequest) :
    wanted owner id (r :: rs) = wanted owner id rs := by
  simp [wanted, h]

theorem wanted_cons_self {r : SaveRequest} (h : IsFor owner id r) (he : r.update.isEmpty = false)
    (rs : List SaveRequest) : wanted owner id (r :: rs) = r.update :: wanted owner id rs := by
  simp [wanted, h, he]

/-- Merging makes no difference between an empty update and none. -/
theorem merged_wanted_cons {r : SaveRequest} (h : IsFor owner id r) (rs : List SaveRequest) :
    merged (wanted owner id (r :: rs)) = r.update.merge (merged (wanted owner id rs)) := by
  cases he : r.update.isEmpty with
  | true => rw [wanted_cons_empty he, Update.isEmpty_iff.mp he, Update.empty_merge]
  | false => rw [wanted_cons_self h he, Update.merged_cons]

/-- When one owner asks for a table, that owner's updates are all of its updates. -/
theorem merged_wanted {rs : List SaveRequest} (howner : IsOwned owner id rs) :
    merged (wanted owner id rs) = merged (updatesFor id rs) := by
  induction rs with
  | nil => rfl
  | cons r rs ih =>
    have hrest := ih fun p hp => howner p (List.mem_cons_of_mem r hp)
    by_cases hid : r.id = id
    · rw [merged_wanted_cons ⟨howner r List.mem_cons_self hid, hid⟩, updatesFor_cons_self hid,
        Update.merged_cons, hrest]
    · rw [wanted_cons_other fun h => hid h.2, updatesFor_cons_other hid, hrest]

theorem isEmpty_of_mem_wanted {u : Update} {rs : List SaveRequest} (h : u ∈ wanted owner id rs) :
    u.isEmpty = false := by
  obtain ⟨r, hr, rfl⟩ := List.mem_map.mp h
  simpa using (of_decide_eq_true (List.mem_filter.mp hr).2).2

theorem wanted_of_not_isFor {rs : List SaveRequest} (h : ∀ r ∈ rs, ¬ IsFor owner id r) :
    wanted owner id rs = [] := by
  induction rs with
  | nil => rfl
  | cons r rs ih =>
    rw [wanted_cons_other (h r (by simp)), ih fun p hp => h p (by simp [hp])]

theorem wanted_due {σ : Type} (a : Autosaver σ) :
    wanted owner id a.due = wanted owner id a.pending := by
  unfold wanted due
  rw [List.filter_filter]
  congr 2
  funext r
  cases r.update.isEmpty <;> simp

@[simp] theorem settled_nil : settled owner id [] = [] := rfl

@[simp] theorem settled_append (reps reps' : List SaveReport) :
    settled owner id (reps ++ reps') = settled owner id reps' ++ settled owner id reps := by
  simp [settled]

theorem settled_cons (rep : SaveReport) (reps : List SaveReport) :
    settled owner id (rep :: reps) = settled owner id reps ++ settled owner id [rep] :=
  settled_append [rep] reps

theorem settled_other {r : SaveRequest} {f : Option Error} (h : ¬ IsFor owner id r) :
    settled owner id [⟨r, f⟩] = [] := by
  simp [settled, h]

theorem settled_cancelled (r : SaveRequest) : settled owner id [⟨r, some .cancelled⟩] = [] := by
  simp [settled]

theorem settled_self {r : SaveRequest} {f : Option Error} (h : IsFor owner id r)
    (hf : f ≠ some .cancelled) : settled owner id [⟨r, f⟩] = [r.update] := by
  simp [settled, h, hf]

/-! ## Joining the queue -/

/-- How many of the requests that wait are for the table. -/
def countFor (owner id : String) (rs : List SaveRequest) : Nat :=
  rs.countP fun r => IsFor owner id r

/-- Behind the one request for the table there is none. -/
theorem countFor_eq_zero {r : SaveRequest} (h : IsFor owner id r) {rs : List SaveRequest}
    (hsingle : countFor owner id (r :: rs) ≤ 1) :
    countFor owner id rs = 0 ∧ wanted owner id rs = [] := by
  unfold countFor at hsingle ⊢
  rw [List.countP_cons, if_pos (by simpa using h)] at hsingle
  have hzero : rs.countP (fun q => IsFor owner id q) = 0 := by omega
  exact ⟨hzero, wanted_of_not_isFor (by simpa using List.countP_eq_zero.mp hzero)⟩

/-- The one request for the table is all that is asked for it. -/
theorem merged_wanted_of_mem {r : SaveRequest} (h : IsFor owner id r) {rs : List SaveRequest}
    (hmem : r ∈ rs) (hsingle : countFor owner id rs ≤ 1) :
    merged (wanted owner id rs) = r.update := by
  induction rs with
  | nil => exact absurd hmem List.not_mem_nil
  | cons p rs ih =>
    by_cases hp : IsFor owner id p
    · obtain ⟨hzero, hnone⟩ := countFor_eq_zero hp hsingle
      have hfirst : r = p := by
        rcases List.mem_cons.mp hmem with hrp | hrest
        · exact hrp
        · have hpos : 0 < countFor owner id rs :=
            List.countP_pos_iff.mpr ⟨r, hrest, by simpa using h⟩
          omega
      rw [merged_wanted_cons hp, hnone, hfirst]
      rfl
    · have hrest : r ∈ rs := (List.mem_cons.mp hmem).resolve_left fun hrp => hp (hrp ▸ h)
      unfold countFor at hsingle ih
      rw [List.countP_cons, if_neg (by simpa using hp), Nat.add_zero] at hsingle
      rw [wanted_cons_other hp]
      exact ih hrest hsingle

theorem countFor_enqueue_other {r : SaveRequest} (h : ¬ IsFor owner id r) (ps : List SaveRequest) :
    countFor owner id (enqueue r ps) = countFor owner id ps ∧
      wanted owner id (enqueue r ps) = wanted owner id ps := by
  induction ps with
  | nil => simp [enqueue, countFor, wanted, h]
  | cons p ps ih =>
    unfold enqueue
    split
    · rename_i hp
      have hother : ∀ u, ¬ IsFor owner id { p with update := u } := by
        intro u hu
        exact h ⟨hp.2.symm.trans hu.1, hp.1.symm.trans hu.2⟩
      rw [wanted_cons_other (hother _), wanted_cons_other (hother p.update)]
      simp [countFor, hother p.update, hother (p.update.merge r.update)]
    · obtain ⟨hcount, hwanted⟩ := ih
      unfold countFor at hcount ⊢
      rw [List.countP_cons, List.countP_cons, hcount]
      by_cases hp : IsFor owner id p
      · cases he : p.update.isEmpty with
        | true => rw [wanted_cons_empty he, wanted_cons_empty he, hwanted]; simp
        | false => rw [wanted_cons_self hp he, wanted_cons_self hp he, hwanted]; simp
      · rw [wanted_cons_other hp, wanted_cons_other hp, hwanted]
        simp

/-- A request for the table is merged into the one that waits for it. -/
theorem countFor_enqueue_self {r : SaveRequest} (h : IsFor owner id r) {ps : List SaveRequest}
    (hsingle : countFor owner id ps ≤ 1) :
    countFor owner id (enqueue r ps) ≤ 1 ∧
      merged (wanted owner id (enqueue r ps)) = (merged (wanted owner id ps)).merge r.update := by
  induction ps with
  | nil =>
    refine ⟨by simp [enqueue, countFor, h], ?_⟩
    rw [enqueue, merged_wanted_cons h]
    simp
  | cons p ps ih =>
    unfold enqueue
    by_cases hp : IsFor owner id p
    · obtain ⟨hzero, hnone⟩ := countFor_eq_zero hp hsingle
      have hp' : IsFor owner id { p with update := p.update.merge r.update } := hp
      rw [if_pos ⟨hp.2.trans h.2.symm, hp.1.trans h.1.symm⟩, merged_wanted_cons hp',
        merged_wanted_cons hp, hnone]
      refine ⟨?_, by simp⟩
      unfold countFor at hzero ⊢
      rw [List.countP_cons, hzero]
      split <;> omega
    · have hsame : ¬ (p.id = r.id ∧ p.owner = r.owner) := fun hsame =>
        hp ⟨hsame.2.trans h.1, hsame.1.trans h.2⟩
      unfold countFor at hsingle ih ⊢
      rw [List.countP_cons, if_neg (by simpa using hp), Nat.add_zero] at hsingle
      obtain ⟨hcount, hmerged⟩ := ih hsingle
      rw [if_neg hsame, wanted_cons_other hp, wanted_cons_other hp, List.countP_cons,
        if_neg (by simpa using hp)]
      exact ⟨hcount, hmerged⟩

end

variable {σ : Type}

/-! ## The ledger -/

/-- Where the updates of a table are that were asked for since a state of the saver, while a
dispatch has yet to save `todo`. Between dispatches there is nothing to save. -/
structure Ledger (owner id : String) (origin : Autosaver σ) (asked : List Update)
    (todo : List SaveRequest) (a : Autosaver σ) : Prop where
  later : origin.reports <:+ a.reports
  full : ∀ u ∈ asked, u.isEmpty = false
  /-- One request at most is kept for the table, or else a cancelled one could wait behind it. -/
  single : countFor owner id (todo ++ a.pending) ≤ 1
  kept : ∃ (batches : List (List Update)) (held : List Update),
    batches.map merged = settled owner id (since origin a) ∧
      merged held = merged (wanted owner id (todo ++ a.pending)) ∧
      asked = batches.flatten ++ held ++ wanted owner id (a.inbox.filterMap Message.request?)

section

variable {owner id : String} {origin : Autosaver σ} {asked : List Update} {a : Autosaver σ}

theorem merged_eq_empty_iff {us : List Update} (h : ∀ u ∈ us, u.isEmpty = false) :
    merged us = {} ↔ us = [] := by
  rw [← Update.isEmpty_iff, Update.isEmpty_merged]
  cases us with
  | nil => simp
  | cons u us => simp [h u (by simp)]

theorem Ledger.start (hsingle : countFor owner id a.pending ≤ 1) :
    Ledger owner id a (wanted owner id a.waiting) [] a := by
  have hnothing : since a a = [] := by simp [since]
  refine ⟨List.suffix_refl _, fun u => isEmpty_of_mem_wanted, hsingle, [],
    wanted owner id a.pending, by simp [hnothing], rfl, ?_⟩
  simp [waiting]

theorem full_append (h : ∀ u ∈ asked, u.isEmpty = false) (rs : List SaveRequest) :
    ∀ u ∈ asked ++ wanted owner id rs, u.isEmpty = false := fun u hu =>
  (List.mem_append.mp hu).elim (h u) isEmpty_of_mem_wanted

theorem Ledger.enqueue {r : SaveRequest} {rest : List Message}
    (h : Ledger owner id origin asked [] a) (hinbox : a.inbox = .save r :: rest) :
    Ledger owner id origin asked []
      { a with inbox := rest, pending := Autosaver.enqueue r a.pending } := by
  obtain ⟨hlater, hfull, hsingle, batches, held, hbatches, hheld, hasked⟩ := h
  rw [List.nil_append] at hsingle hheld
  have hasked : asked = batches.flatten ++ held ++
      wanted owner id (r :: rest.filterMap Message.request?) := by rw [hasked, hinbox]; rfl
  by_cases hr : IsFor owner id r
  · obtain ⟨hcount, hmerged⟩ := countFor_enqueue_self hr hsingle
    cases he : r.update.isEmpty with
    | true =>
      rw [wanted_cons_empty he] at hasked
      refine ⟨hlater, hfull, hcount, batches, held, hbatches, ?_, hasked⟩
      rw [List.nil_append, hheld, hmerged, Update.isEmpty_iff.mp he, Update.merge_empty]
    | false =>
      rw [wanted_cons_self hr he] at hasked
      refine ⟨hlater, hfull, hcount, batches, held ++ [r.update], hbatches, ?_, ?_⟩
      · rw [List.nil_append, hmerged, Update.merged_append, hheld]
        simp
      · simpa using hasked
  · obtain ⟨hcount, hwanted⟩ := countFor_enqueue_other hr a.pending
    rw [wanted_cons_other hr] at hasked
    exact ⟨hlater, hfull, Nat.le_trans (Nat.le_of_eq hcount) hsingle, batches, held, hbatches, by
      rw [List.nil_append, hheld, hwanted], hasked⟩

end

variable [TableStore σ]

/-- One save is reported, and the request waits again when it was cancelled. -/
theorem saveOne_report (o : Occasion) (a : Autosaver σ) (r : SaveRequest) : ∃ f,
    since a (saveOne o a r) = [⟨r, f⟩] ∧
      (saveOne o a r).pending =
        if f = some .cancelled then a.pending ++ [r] else a.pending := by
  obtain ⟨s, -, h⟩ | ⟨e, -, h⟩ := saveOne_cases o a r
  · exact ⟨none, since_eq (by rw [h]; rfl), by rw [h, if_neg (by simp)]⟩
  · exact ⟨some e, since_eq (by rw [h]; rfl), by rw [h]; simp⟩

/-! ## Steps -/

section

variable {owner id : String} {origin : Autosaver σ} {asked : List Update} {a : Autosaver σ}

/-- What arrives during a save has been asked for too. -/
theorem asked_saveOne {batches : List (List Update)} {held : List Update} (o : Occasion)
    (r : SaveRequest)
    (h : asked = batches.flatten ++ held ++
      wanted owner id (a.inbox.filterMap Message.request?)) :
    asked ++ wanted owner id a.nextFlight.arrivals = batches.flatten ++ held ++
      wanted owner id ((saveOne o a r).inbox.filterMap Message.request?) := by
  rw [h, saveOne_inbox, List.filterMap_append, Message.requests_saves, wanted_append,
    List.append_assoc]

theorem Ledger.saveOne_other {o : Occasion} {r : SaveRequest} {todo : List SaveRequest}
    (h : Ledger owner id origin asked (r :: todo) a) (hr : ¬ IsFor owner id r) :
    Ledger owner id origin (asked ++ wanted owner id a.nextFlight.arrivals) todo
      (saveOne o a r) := by
  obtain ⟨hlater, hfull, hsingle, batches, held, hbatches, hheld, hasked⟩ := h
  obtain ⟨f, hmade, hpending⟩ := saveOne_report o a r
  have hsame : countFor owner id (saveOne o a r).pending = countFor owner id a.pending ∧
      wanted owner id (saveOne o a r).pending = wanted owner id a.pending := by
    rw [hpending]
    split
    · simp [countFor, hr, wanted_cons_other hr]
    · exact ⟨rfl, rfl⟩
  refine ⟨hlater.trans (suffix_saveOne o a r), full_append hfull _, ?_, batches, held, ?_, ?_,
    asked_saveOne o r hasked⟩
  · unfold countFor at hsingle hsame ⊢
    rw [List.countP_append, hsame.1]
    simpa [hr] using hsingle
  · rw [hbatches, since_append hlater (suffix_saveOne o a r), hmade, settled_append,
      settled_other hr, List.append_nil]
  · rw [hheld, List.cons_append, wanted_cons_other hr, wanted_append, wanted_append, hsame.2]

theorem Ledger.saveOne_self {o : Occasion} {r : SaveRequest} {todo : List SaveRequest}
    (h : Ledger owner id origin asked (r :: todo) a) (hr : IsFor owner id r) :
    Ledger owner id origin (asked ++ wanted owner id a.nextFlight.arrivals) todo
      (saveOne o a r) := by
  obtain ⟨hlater, hfull, hsingle, batches, held, hbatches, hheld, hasked⟩ := h
  obtain ⟨f, hmade, hpending⟩ := saveOne_report o a r
  rw [List.cons_append] at hsingle
  obtain ⟨hzero, hrest⟩ := countFor_eq_zero hr hsingle
  have hupdate : merged held = r.update := by
    rw [hheld, List.cons_append, merged_wanted_cons hr, hrest]
    rfl
  have hsince := since_append hlater (suffix_saveOne o a r)
  by_cases hf : f = some .cancelled
  · -- the batch waits again
    rw [if_pos hf] at hpending
    refine ⟨hlater.trans (suffix_saveOne o a r), full_append hfull _, ?_, batches, held, ?_, ?_,
      asked_saveOne o r hasked⟩
    · rw [hpending, ← List.append_assoc]
      unfold countFor at hzero ⊢
      rw [List.countP_append, hzero]
      simp [hr]
    · rw [hbatches, hsince, hmade, hf, settled_append, settled_cancelled, List.append_nil]
    · rw [hpending, ← List.append_assoc, wanted_append, hrest, List.nil_append,
        merged_wanted_cons hr, hupdate]
      rfl
  · -- the batch is settled
    rw [if_neg hf] at hpending
    refine ⟨hlater.trans (suffix_saveOne o a r), full_append hfull _, ?_, batches ++ [held], [],
      ?_, ?_, ?_⟩
    · rw [hpending, hzero]
      exact Nat.zero_le 1
    · rw [hsince, hmade, settled_append, settled_self hr hf, List.map_append, hbatches,
        List.map_singleton, hupdate]
    · rw [hpending, hrest]
    · simpa using asked_saveOne o r hasked

/-- A whole dispatch. -/
theorem Ledger.saveAll {o : Occasion} {todo : List SaveRequest}
    (h : Ledger owner id origin asked todo a) :
    Ledger owner id origin (asked ++ wanted owner id (arrivals todo.length a.flights)) []
      (todo.foldl (Autosaver.saveOne o) a) := by
  induction todo generalizing a asked with
  | nil => simpa using h
  | cons r todo ih =>
    have hstep : Ledger owner id origin (asked ++ wanted owner id a.nextFlight.arrivals) todo
        (Autosaver.saveOne o a r) := by
      by_cases hr : IsFor owner id r
      · exact h.saveOne_self hr
      · exact h.saveOne_other hr
    have hrest := ih hstep
    rw [saveOne_flights] at hrest
    simpa [arrivals_succ] using hrest

/-- Empty requests are dropped, and nothing was asked for in them. -/
theorem Ledger.dispatch {o : Occasion} (h : Ledger owner id origin asked [] a) :
    Ledger owner id origin (asked ++ wanted owner id (arrivals a.due.length a.flights)) []
      (a.dispatch o) := by
  obtain ⟨hlater, hfull, hsingle, batches, held, hbatches, hheld, hasked⟩ := h
  have hdue : Ledger owner id origin asked a.due { a with pending := [] } := by
    refine ⟨hlater, hfull, ?_, batches, held, hbatches, ?_, hasked⟩
    · have hsub : a.due.Sublist a.pending := List.filter_sublist
      rw [List.append_nil]
      exact Nat.le_trans hsub.countP_le hsingle
    · rw [List.append_nil, wanted_due]
      exact hheld
  exact hdue.saveAll

theorem Ledger.step {e : Event} (h : Ledger owner id origin asked [] a) :
    Ledger owner id origin (asked ++ wanted owner id (a.sent e)) [] (a.step e) := by
  by_cases hd : a.Dispatches e
  · obtain ⟨o, inbox, -, hstep, hinbox, hsent⟩ := step_of_dispatches hd
    obtain ⟨hlater, hfull, hsingle, batches, held, hbatches, hheld, hasked⟩ := h
    have hheard : Ledger owner id origin asked [] { a with inbox := inbox } :=
      ⟨hlater, hfull, hsingle, batches, held, hbatches, hheld, by rw [hasked]; simp [hinbox]⟩
    rw [hstep, hsent]
    exact hheard.dispatch
  · cases e with
    | dispatch o => exact absurd trivial hd
    | receive o =>
      have hsent : a.sent (.receive o) = [] := if_neg hd
      rw [hsent, wanted_nil, List.append_nil]
      obtain hstay | ⟨r, rest, hi, hheard⟩ := receive_cases hd
      · rwa [hstay]
      · rw [hheard]
        exact h.enqueue hi
    | _ =>
      obtain ⟨hlater, hfull, hsingle, batches, held, hbatches, hheld, hasked⟩ := h
      refine ⟨hlater, full_append hfull _, hsingle, batches, held, hbatches, hheld, ?_⟩
      rw [hasked]
      simp [Autosaver.step, schedule, sent, Message.request?, List.filterMap_cons]

theorem Ledger.run (h : Ledger owner id origin asked [] a) (es : List Event) :
    Ledger owner id origin (asked ++ wanted owner id (a.scheduled es)) [] (a.run es) := by
  induction es generalizing a asked with
  | nil => simpa [scheduled] using h
  | cons e es ih =>
    have hrest := ih (h.step (e := e))
    simpa [scheduled] using hrest

/-- After a dispatch what is held back is a request that was cancelled in it. -/
theorem Ledger.held_of_dispatches {e : Event} (h : Ledger owner id origin asked [] (a.step e))
    (hdispatch : a.Dispatches e) : ∃ (batches : List (List Update)) (held : List Update),
    batches.map merged = settled owner id (since origin (a.step e)) ∧
      asked = batches.flatten ++ held ++
        wanted owner id ((a.step e).inbox.filterMap Message.request?) ∧
      (held = [] ∨ ∃ r ∈ (a.step e).pending, IsFor owner id r ∧ r.update = merged held ∧
        ⟨r, some .cancelled⟩ ∈ since a (a.step e)) := by
  obtain ⟨-, hfull, hsingle, batches, held, hbatches, hheld, hasked⟩ := h
  refine ⟨batches, held, hbatches, hasked, ?_⟩
  rw [List.nil_append] at hsingle hheld
  have hsome : (∀ r ∈ (a.step e).pending, ¬ IsFor owner id r) ∨
      ∃ r ∈ (a.step e).pending, IsFor owner id r := by
    by_cases hr : ∃ r ∈ (a.step e).pending, IsFor owner id r
    · exact .inr hr
    · exact .inl fun r hmem hfor => hr ⟨r, hmem, hfor⟩
  rcases hsome with hnone | ⟨r, hmem, hr⟩
  · left
    refine (merged_eq_empty_iff fun u hu => hfull u ?_).mp ?_
    · rw [hasked]
      simp [hu]
    · rw [hheld, wanted_of_not_isFor hnone]
      rfl
  · right
    refine ⟨r, hmem, hr, ?_, cancelled_of_dispatches hdispatch hmem⟩
    rw [hheld, merged_wanted_of_mem hr hmem hsingle]

end

end FormulaSheet.Autosaver
