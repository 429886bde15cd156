import FormulaSheet.Proofs.Autosave.Steps

/-!
What every save preserves, a whole run preserves (`run_preserves`). The predicate is one of the
store and of the saves that were made so far; a save may use that it was asked for, that something
is to be saved in it, and that what happens meanwhile was planned (`CanSave`).
-/

namespace FormulaSheet.Autosaver

variable {σ : Type}

/-- What will happen during saves, as it turns out in an event. -/
def Event.flights : Event → List Flight
  | .plan fs => fs
  | _ => []

theorem nextFlight_cases (a : Autosaver σ) : a.nextFlight = {} ∨ a.nextFlight ∈ a.flights := by
  unfold nextFlight
  cases a.flights with
  | nil => exact .inl rfl
  | cons f fs => exact .inr List.mem_cons_self

variable [TableStore σ]

/-- A save that a run can try to make: for the table and the owner of a request that waits or is
sent, with something to save, on the occasion of an event, while nothing happens but what is
planned. -/
structure CanSave (a : Autosaver σ) (es : List Event) (o : Occasion) (f : Flight)
    (r : SaveRequest) : Prop where
  occasion : o ∈ occasions es
  flight : f = {} ∨ f ∈ a.flights ∨ ∃ e ∈ es, f ∈ e.flights
  request : ∃ q ∈ a.waiting ++ a.scheduled es, r.id = q.id ∧ r.owner = q.owner
  something : r.update.isEmpty = false

/-- Whether the store accepts a save or refuses it, the predicate holds again of the store and of
the saves that were made, the latest first. -/
def Survives (P : σ → List SaveReport → Prop) (o : Occasion) (f : Flight) (r : SaveRequest) :
    Prop :=
  ∀ s made, P s made →
    (∀ s', attempt o f r s = .ok s' → P s' (⟨r, none⟩ :: made)) ∧
      ∀ e, attempt o f r s = .error e → P s (⟨r, some e⟩ :: made)

section

variable {P : σ → List SaveReport → Prop} {a : Autosaver σ} {made : List SaveReport}

theorem saveOne_preserves {o : Occasion} {r : SaveRequest} (hsave : Survives P o a.nextFlight r)
    (h : P a.store made) :
    P (saveOne o a r).store (since a (saveOne o a r) ++ made) := by
  obtain ⟨haccepted, hrefused⟩ := hsave a.store made h
  obtain ⟨s, hok, hs⟩ | ⟨e, hfail, hs⟩ := saveOne_cases o a r
  · have hmade : since a (saveOne o a r) = [⟨r, none⟩] := since_eq (by rw [hs]; rfl)
    rw [hmade, hs]
    exact haccepted s hok
  · have hmade : since a (saveOne o a r) = [⟨r, some e⟩] := since_eq (by rw [hs]; rfl)
    rw [hmade, hs]
    exact hrefused e hfail

/-- A whole dispatch. -/
theorem saveAll_preserves {o : Occasion} {todo : List SaveRequest}
    (hsave : ∀ r ∈ todo, ∀ f, f = {} ∨ f ∈ a.flights → Survives P o f r) (h : P a.store made) :
    P (todo.foldl (saveOne o) a).store (since a (todo.foldl (saveOne o) a) ++ made) := by
  induction todo generalizing a made with
  | nil => simpa [since] using h
  | cons r todo ih =>
    have hfirst := saveOne_preserves (hsave r List.mem_cons_self _ a.nextFlight_cases) h
    have hrest := ih (a := saveOne o a r) (fun p hp f hf => hsave p (List.mem_cons_of_mem r hp) f
      (hf.imp_right fun hf => List.mem_of_mem_tail (saveOne_flights o a r ▸ hf))) hfirst
    rw [List.foldl_cons, since_append (suffix_saveOne o a r) (saveAll_reports ..),
      List.append_assoc]
    exact hrest

theorem saveAll_flights (o : Occasion) (todo : List SaveRequest) (a : Autosaver σ) :
    (todo.foldl (saveOne o) a).flights = a.flights.drop todo.length := by
  induction todo generalizing a with
  | nil => rfl
  | cons r todo ih => rw [List.foldl_cons, ih, saveOne_flights, List.length_cons, List.drop_tail]

/-- What is to happen after a step was to happen before, or is planned in it. -/
theorem mem_flights_step {e : Event} {f : Flight} (hf : f ∈ (a.step e).flights) :
    f ∈ a.flights ∨ f ∈ e.flights := by
  by_cases h : a.Dispatches e
  · obtain ⟨o, inbox, -, hstep, -⟩ := step_of_dispatches h
    have hflights : (a.step e).flights = a.flights.drop a.due.length := by
      rw [hstep]
      exact saveAll_flights o _ _
    exact .inl (List.mem_of_mem_drop (hflights ▸ hf))
  · cases e with
    | plan fs => exact .inr hf
    | receive o =>
      obtain hstay | ⟨r, rest, -, hheard⟩ := receive_cases h
      · rw [hstay] at hf
        exact .inl hf
      · rw [hheard] at hf
        exact .inl hf
    | dispatch o => exact absurd trivial h
    | schedule r => exact .inl hf
    | askFlush => exact .inl hf

theorem CanSave.of_cons {e : Event} {es : List Event} {o : Occasion} {f : Flight} {r : SaveRequest}
    (h : CanSave (a.step e) es o f r) : CanSave a (e :: es) o f r := by
  obtain ⟨ho, hf, ⟨q, hq, hid, howner⟩, hsome⟩ := h
  refine ⟨List.mem_filterMap.mpr ?_, ?_, ?_, hsome⟩
  · obtain ⟨e', he', ho⟩ := List.mem_filterMap.mp ho
    exact ⟨e', List.mem_cons_of_mem e he', ho⟩
  · rcases hf with hf | hf | ⟨e', he', hf⟩
    · exact .inl hf
    · rcases mem_flights_step hf with hf | hf
      · exact .inr (.inl hf)
      · exact .inr (.inr ⟨e, List.mem_cons_self, hf⟩)
    · exact .inr (.inr ⟨e', List.mem_cons_of_mem e he', hf⟩)
  · rcases List.mem_append.mp hq with hq | hq
    · obtain ⟨p, hp, hpid, hpowner⟩ := mem_waiting_step hq
      refine ⟨p, ?_, hid.trans hpid, howner.trans hpowner⟩
      rcases List.mem_append.mp hp with hp | hp <;> simp [scheduled, hp]
    · exact ⟨q, by simp [scheduled, hq], hid, howner⟩

theorem CanSave.owner_eq {es : List Event} {o : Occasion} {f : Flight} {r : SaveRequest}
    (h : CanSave a es o f r) {owner id : String}
    (howner : IsOwned owner id (a.waiting ++ a.scheduled es)) (hid : r.id = id) :
    r.owner = owner := by
  obtain ⟨q, hq, hqid, hqowner⟩ := h.request
  exact hqowner.trans (howner q hq (hqid.symm.trans hid))

/-- What waits with something to save can be saved in a dispatch. -/
theorem canSave_of_due {e : Event} {es : List Event} {o : Occasion} {f : Flight} {r : SaveRequest}
    (ho : e.occasion? = some o) (hf : f = {} ∨ f ∈ a.flights) (hr : r ∈ a.due) :
    CanSave a (e :: es) o f r := by
  obtain ⟨hpending, hsome⟩ := List.mem_filter.mp hr
  exact ⟨List.mem_filterMap.mpr ⟨e, List.mem_cons_self, ho⟩, hf.imp_right .inl,
    ⟨r, by simp [waiting, hpending], rfl, rfl⟩, by simpa using hsome⟩

theorem step_preserves {e : Event} {es : List Event}
    (hsave : ∀ o f r, CanSave a (e :: es) o f r → Survives P o f r) (h : P a.store made) :
    P (a.step e).store (since a (a.step e) ++ made) := by
  by_cases hd : a.Dispatches e
  · obtain ⟨o, inbox, ho, hstep, -⟩ := step_of_dispatches hd
    rw [hstep]
    exact saveAll_preserves (a := { a with inbox := inbox, pending := [] })
      (fun r hr f hf => hsave o f r (canSave_of_due ho hf hr)) h
  · obtain ⟨hstore, hreports⟩ := step_of_not_dispatches hd
    have hmade : since a (a.step e) = [] := since_eq hreports
    rw [hmade, hstore]
    exact h

theorem run_preserves_after {es : List Event}
    (hsave : ∀ o f r, CanSave a es o f r → Survives P o f r) (h : P a.store made) :
    P (a.run es).store (since a (a.run es) ++ made) := by
  induction es generalizing a made with
  | nil => simpa [since] using h
  | cons e es ih =>
    have hfirst : P (a.step e).store (since a (a.step e) ++ made) :=
      step_preserves hsave h
    have hrest := ih (fun o f r hcan => hsave o f r hcan.of_cons) hfirst
    rw [run_cons, since_append (step_reports a e) (run_reports ..), List.append_assoc]
    exact hrest

theorem run_preserves {es : List Event}
    (hsave : ∀ o f r, CanSave a es o f r → Survives P o f r) (h : P a.store []) :
    P (a.run es).store (since a (a.run es)) := by
  simpa using run_preserves_after hsave h

end

end FormulaSheet.Autosaver
