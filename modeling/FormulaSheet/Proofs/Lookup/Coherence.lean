import FormulaSheet.Formula.Functions
import FormulaSheet.Lookup
import FormulaSheet.Proofs.Lookup.Identifiers
import FormulaSheet.Store.Memory
import Mathlib.Data.List.Induction

/-!
Tables that are kept once they are looked up. Whatever happens to a store and to what is kept of it,
a table that is looked up is seen as it was in the store when it was first found since it was last
given up (`FirstFound`), and a table that is not found is not kept. All of this is about
identifiers. A formula takes the identifier in a reference for a reference itself, and so, where a
blank or another colon stands behind the colon, it means another table than the same reference does
in a lookup, and giving that one up does not touch it (`formula_sees_former_table`).
-/

namespace FormulaSheet.Lookup

open LinkedTable (idOf? IsPlain)

variable {σ : Type} [TableStore σ]

/-! ## What is kept -/

section

variable {store : σ} {l : Lookup} {reference id : String}

theorem stored?_congr {l l' : Lookup} (h : l.owner = l'.owner) (store : σ) (id : String) :
    stored? store l id = stored? store l' id := by
  unfold stored?
  rw [h]

theorem known?_cons (l : Lookup) (other id : String) (t : LinkedTable) :
    known? { l with known := (other, t) :: l.known } id =
      if other = id then some t else l.known? id := by
  by_cases h : other = id
  · simp [known?, h]
  · simp [known?, h, beq_false_of_ne h]

/-- Looking a table up keeps it, if it is found. -/
theorem remember_eq {id : String} (hid : idOf? reference = some id) :
    l.remember store reference =
      match l.known? id, stored? store l id with
      | none, some t => { l with known := (id, t) :: l.known }
      | _, _ => l := by
  unfold remember
  rw [hid]
  cases hknown : l.known? id with
  | some t => simp [hknown]
  | none => cases hstored : stored? store l id <;> simp [hknown, hstored]

theorem known?_remember (store : σ) (l : Lookup) (reference id : String) :
    (l.remember store reference).known? id =
      if idOf? reference = some id then (l.known? id).or (stored? store l id) else l.known? id := by
  cases hid : idOf? reference with
  | none => simp [remember, hid]
  | some other =>
    rw [remember_eq hid]
    cases hknown : l.known? other with
    | some t =>
      by_cases hother : other = id
      · simp [← hother, hknown]
      · simp [hother]
    | none =>
      cases hstored : stored? store l other with
      | none =>
        by_cases hother : other = id
        · simp [← hother, hknown, hstored]
        · simp [hother]
      | some t =>
        by_cases hother : other = id
        · simp [← hother, hknown, hstored, known?_cons]
        · simp [hother, known?_cons]

theorem owner_remember (store : σ) (l : Lookup) (reference : String) :
    (l.remember store reference).owner = l.owner := by
  cases hid : idOf? reference with
  | none => simp [remember, hid]
  | some id =>
    rw [remember_eq hid]
    split <;> rfl

/-- What is not found is not kept. -/
theorem remember_of_none (h : l.table? store reference = none) :
    l.remember store reference = l := by
  cases hid : idOf? reference with
  | none => simp [remember, hid]
  | some id =>
    rw [table?, hid, Option.bind_some, Option.or_eq_none_iff] at h
    rw [remember_eq hid, h.1, h.2]

theorem known?_invalidate (l : Lookup) (reference id : String) :
    (l.invalidate reference).known? id =
      if idOf? reference = some id then none else l.known? id := by
  unfold invalidate
  cases hid : idOf? reference with
  | none => simp
  | some other =>
    by_cases hother : other = id
    · simp [← hother, known?]
    · -- the entry that is looked for is none of those given up
      have hkept : ∀ k : String × LinkedTable,
          decide ((k.1 != other) = true ∧ (k.1 == id) = true) = (k.1 == id) := by
        intro k
        by_cases hk : k.1 = id
        · have hne : id ≠ other := fun heq => hother heq.symm
          simp [hk, hne]
        · simp [beq_false_of_ne hk]
      have hne : some other ≠ some id := fun heq => hother (Option.some.inj heq)
      rw [if_neg hne]
      simp only [known?, List.find?_filter, hkept]

theorem owner_invalidate (l : Lookup) (reference : String) :
    (l.invalidate reference).owner = l.owner := by
  unfold invalidate
  split <;> rfl

end

/-! ## References in formulas -/

/-- The table that a formula gets for a reference: the identifier in it is looked up, and so taken
for a reference itself. -/
def referred? (store : σ) (l : Lookup) (reference : String) : Option LinkedTable :=
  (idOf? reference).bind (l.table? store)

theorem linkedTable_eq {c : Context} {store : σ} {l : Lookup} (h : c.lookup = l.table? store)
    (reference : String) (s : Script.State) :
    Formula.linkedTable c reference s =
      .ok (((l.referred? store reference).map LinkedTable.toScript).getD .unit)
        { s with asked := (idOf? reference).toList ++ s.asked } := by
  unfold Formula.linkedTable referred?
  cases idOf? reference with
  | none => rfl
  | some id =>
    rw [h]
    rfl

/-! ## What happens -/

/-- What happens to a store and to what is looked up in it. -/
inductive Event (σ : Type) where
  /-- The store is changed. -/
  | change (f : σ → σ)
  /-- A formula refers to a table. -/
  | reference (text : String)
  | lookup (text : String)
  | invalidate (text : String)
  | clear

namespace Event

/-- The identifier of the table that is looked up. -/
def asks? : Event σ → Option String
  | .reference text => (idOf? text).bind idOf?
  | .lookup text => idOf? text
  | _ => none

/-- Whether the table of an identifier is given up. -/
def Drops (id : String) : Event σ → Prop
  | .invalidate text => idOf? text = some id
  | .clear => True
  | _ => False

end Event

/-- A store and what an owner has looked up in it. -/
structure Session (σ : Type) where
  store : σ
  lookup : Lookup

namespace Session

variable {s start : Session σ} {e : Event σ} {events : List (Event σ)} {id : String}
  {t : LinkedTable}

def step (s : Session σ) : Event σ → Session σ
  | .change f => { s with store := f s.store }
  | .reference text =>
    { s with lookup := s.lookup.rememberAll s.store (idOf? text).toList }
  | .lookup text => { s with lookup := s.lookup.remember s.store text }
  | .invalidate text => { s with lookup := s.lookup.invalidate text }
  | .clear => { s with lookup := s.lookup.clear }

def run (s : Session σ) (events : List (Event σ)) : Session σ := events.foldl step s

theorem run_concat (s : Session σ) (events : List (Event σ)) (e : Event σ) :
    s.run (events ++ [e]) = (s.run events).step e := by
  simp [run]

/-- The table of an identifier in the store. -/
def stored? (s : Session σ) (id : String) : Option LinkedTable :=
  Lookup.stored? s.store s.lookup id

/-- The table that an identifier means. -/
def found? (s : Session σ) (id : String) : Option LinkedTable :=
  (s.lookup.known? id).or (s.stored? id)

/-- The table that is told. -/
def answer (s : Session σ) : Event σ → Option LinkedTable
  | .reference text => s.lookup.referred? s.store text
  | .lookup text => s.lookup.table? s.store text
  | _ => none

theorem answer_eq (s : Session σ) (e : Event σ) : s.answer e = e.asks?.bind s.found? := by
  cases e with
  | reference text => exact (Option.bind_assoc (idOf? text) idOf? s.found?).symm
  | lookup text => rfl
  | _ => rfl

theorem owner_step (s : Session σ) (e : Event σ) :
    (s.step e).lookup.owner = s.lookup.owner := by
  cases e with
  | change f => rfl
  | reference text =>
    rw [step]
    cases idOf? text with
    | none => rfl
    | some id => exact owner_remember s.store s.lookup id
  | lookup text => exact owner_remember s.store s.lookup text
  | invalidate text => exact owner_invalidate s.lookup text
  | clear => rfl

omit [TableStore σ] in
theorem not_drops_of_asks? (h : e.asks? = some id) : ¬ e.Drops id := by
  cases e with
  | reference text => exact nofun
  | lookup text => exact nofun
  | _ => cases h

/-! ## What one event keeps -/

theorem known?_step_of_asks? (s : Session σ) (h : e.asks? = some id) :
    (s.step e).lookup.known? id = s.found? id := by
  cases e with
  | reference text =>
    obtain ⟨other, hother, hid⟩ := Option.bind_eq_some_iff.mp h
    rw [step, hother]
    exact (known?_remember s.store s.lookup other id).trans (if_pos hid)
  | lookup text => exact (known?_remember s.store s.lookup text id).trans (if_pos h)
  | _ => cases h

theorem known?_step_of_drops (s : Session σ) (h : e.Drops id) :
    (s.step e).lookup.known? id = none := by
  cases e with
  | invalidate text => exact (known?_invalidate s.lookup text id).trans (if_pos h)
  | clear => rfl
  | _ => cases h

theorem known?_step_of_neither (s : Session σ) (hasks : e.asks? ≠ some id)
    (hdrops : ¬ e.Drops id) : (s.step e).lookup.known? id = s.lookup.known? id := by
  cases e with
  | change f => rfl
  | reference text =>
    rw [step]
    cases hother : idOf? text with
    | none => rfl
    | some other =>
      have hne : idOf? other ≠ some id := by simpa [Event.asks?, hother] using hasks
      exact (known?_remember s.store s.lookup other id).trans (if_neg hne)
  | lookup text => exact (known?_remember s.store s.lookup text id).trans (if_neg hasks)
  | invalidate text => exact (known?_invalidate s.lookup text id).trans (if_neg hdrops)
  | clear => exact absurd trivial hdrops

/-! ## What a run keeps -/

/-- Whatever was found under the identifier in the run has been given up. -/
def Unfound (start : Session σ) (events : List (Event σ)) (id : String) : Prop :=
  ∀ before e after, events = before ++ e :: after → e.asks? = some id →
    ((start.run before).found? id).isSome → ∃ later ∈ after, later.Drops id

/-- In the run the table was in the store when the identifier was first looked up with success since
it was last given up. -/
def FirstFound (start : Session σ) (events : List (Event σ)) (id : String) (t : LinkedTable) :
    Prop :=
  ∃ before e after, events = before ++ e :: after ∧ e.asks? = some id ∧
    Unfound start before id ∧ (start.run before).stored? id = some t ∧
    ∀ later ∈ after, ¬ later.Drops id

/-- The ways to part a list with one more element at its end. -/
theorem concat_eq_append_cons_iff {α : Type} {xs before after : List α} {a x : α} :
    xs ++ [a] = before ++ x :: after ↔
      (xs = before ∧ a = x ∧ after = []) ∨ ∃ between, xs = before ++ x :: between ∧
        after = between ++ [a] := by
  constructor
  · intro h
    rcases List.eq_nil_or_concat after with rfl | ⟨between, b, rfl⟩
    · obtain ⟨rfl, hlast⟩ := List.append_inj' h rfl
      exact .inl ⟨rfl, by simpa using hlast, rfl⟩
    · rw [List.concat_eq_append, ← List.cons_append, ← List.append_assoc] at h
      obtain ⟨rfl, hlast⟩ := List.append_inj' h rfl
      refine .inr ⟨between, rfl, ?_⟩
      simpa using hlast.symm
  · rintro (⟨rfl, rfl, rfl⟩ | ⟨between, rfl, rfl⟩)
    · rfl
    · simp

theorem unfound_concat_iff : Unfound start (events ++ [e]) id ↔
    e.Drops id ∨ (Unfound start events id ∧
      ¬ (e.asks? = some id ∧ ((start.run events).found? id).isSome)) := by
  constructor
  · intro h
    by_cases hdrops : e.Drops id
    · exact .inl hdrops
    · refine .inr ⟨fun before e' after heq hasks hfound => ?_, fun ⟨hasks, hfound⟩ => ?_⟩
      · obtain ⟨later, hlater, hdropped⟩ :=
          h before e' (after ++ [e]) (by simp [heq]) hasks hfound
        rcases List.mem_append.mp hlater with hlater | hlater
        · exact ⟨later, hlater, hdropped⟩
        · rw [List.mem_singleton.mp hlater] at hdropped
          exact absurd hdropped hdrops
      · obtain ⟨later, hlater, -⟩ := h events e [] rfl hasks hfound
        cases hlater
  · intro h before e' after heq hasks hfound
    rcases concat_eq_append_cons_iff.mp heq with ⟨rfl, rfl, rfl⟩ | ⟨between, hbefore, rfl⟩
    · rcases h with hdrops | ⟨-, hnot⟩
      · exact absurd hdrops (not_drops_of_asks? hasks)
      · exact absurd ⟨hasks, hfound⟩ hnot
    · rcases h with hdrops | ⟨hunfound, -⟩
      · exact ⟨e, by simp, hdrops⟩
      · obtain ⟨later, hlater, hdropped⟩ := hunfound before e' between hbefore hasks hfound
        exact ⟨later, List.mem_append_left _ hlater, hdropped⟩

theorem firstFound_concat_iff : FirstFound start (events ++ [e]) id t ↔
    (e.asks? = some id ∧ Unfound start events id ∧ (start.run events).stored? id = some t) ∨
      (¬ e.Drops id ∧ FirstFound start events id t) := by
  constructor
  · rintro ⟨before, e', after, heq, hasks, hunfound, hstored, hkept⟩
    rcases concat_eq_append_cons_iff.mp heq with ⟨rfl, rfl, rfl⟩ | ⟨between, hbefore, rfl⟩
    · exact .inl ⟨hasks, hunfound, hstored⟩
    · refine .inr ⟨hkept e (by simp), before, e', between, hbefore, hasks, hunfound, hstored, ?_⟩
      exact fun later hlater => hkept later (List.mem_append_left _ hlater)
  · rintro (⟨hasks, hunfound, hstored⟩ |
      ⟨hdrops, before, e', after, rfl, hasks, hunfound, hstored, hkept⟩)
    · exact ⟨events, e, [], rfl, hasks, hunfound, hstored, fun _ => nofun⟩
    · refine ⟨before, e', after ++ [e], by simp, hasks, hunfound, hstored, fun later hlater => ?_⟩
      rcases List.mem_append.mp hlater with hlater | hlater
      · exact hkept later hlater
      · rw [List.mem_singleton.mp hlater]
        exact hdrops

theorem known?_run_eq_none_iff (hstart : start.lookup.known? id = none)
    (events : List (Event σ)) :
    (start.run events).lookup.known? id = none ↔ Unfound start events id := by
  induction events using List.reverseRecOn with
  | nil =>
    refine ⟨fun _ before e after heq => ?_, fun _ => hstart⟩
    simp at heq
  | append_singleton events e ih =>
    rw [run_concat, unfound_concat_iff, ← ih]
    by_cases hdrops : e.Drops id
    · simp [known?_step_of_drops _ hdrops, hdrops]
    · by_cases hasks : e.asks? = some id
      · simp [known?_step_of_asks? _ hasks, hdrops, hasks, found?]
      · simp [known?_step_of_neither _ hasks hdrops, hdrops, hasks]

/-- A table is kept from when it was first found. -/
theorem known?_run_eq_some_iff (hstart : start.lookup.known? id = none)
    (events : List (Event σ)) :
    (start.run events).lookup.known? id = some t ↔ FirstFound start events id t := by
  induction events using List.reverseRecOn with
  | nil =>
    refine ⟨fun h => ?_, fun ⟨before, e, after, heq, _⟩ => ?_⟩
    · rw [show start.run [] = start from rfl, hstart] at h
      cases h
    · simp at heq
  | append_singleton events e ih =>
    rw [run_concat, firstFound_concat_iff, ← ih, ← known?_run_eq_none_iff hstart]
    by_cases hdrops : e.Drops id
    · have hasks : e.asks? ≠ some id := fun hasks => not_drops_of_asks? hasks hdrops
      simp [known?_step_of_drops _ hdrops, hdrops, hasks]
    · by_cases hasks : e.asks? = some id
      · rw [known?_step_of_asks? _ hasks, found?, Option.or_eq_some_iff]
        simp [hdrops, hasks, or_comm]
      · simp [known?_step_of_neither _ hasks hdrops, hdrops, hasks]

/-! ## Answers -/

theorem stored?_step (s : Session σ) (hstore : (s.step e).store = s.store) (id : String) :
    (s.step e).stored? id = s.stored? id := by
  unfold stored?
  rw [hstore]
  exact stored?_congr (owner_step s e) s.store id

/-- Looking one table up changes no answer about any. -/
theorem answer_step (s : Session σ) {text : String} (he : e = .reference text ∨ e = .lookup text)
    (asked : Event σ) : (s.step e).answer asked = s.answer asked := by
  have hstore : (s.step e).store = s.store := by rcases he with rfl | rfl <;> rfl
  have hdrops (id : String) : ¬ e.Drops id := by rcases he with rfl | rfl <;> exact nofun
  have hfound : (s.step e).found? = s.found? := by
    funext id
    unfold found?
    rw [stored?_step s hstore]
    by_cases hasks : e.asks? = some id
    · rw [known?_step_of_asks? s hasks, found?, Option.or_assoc, Option.or_self]
    · rw [known?_step_of_neither s hasks (hdrops id)]
  rw [answer_eq, answer_eq, hfound]

theorem step_of_answer_eq_none {text : String} (he : e = .reference text ∨ e = .lookup text)
    (h : s.answer e = none) : s.step e = s := by
  rcases he with rfl | rfl
  · cases hid : idOf? text with
    | none => simp [step, hid, rememberAll]
    | some id =>
      have hnone : s.lookup.table? s.store id = none := by simpa [answer, referred?, hid] using h
      simp [step, hid, rememberAll, remember_of_none hnone]
  · rw [step, remember_of_none h]

/-- Once it is given up, a table is looked for in the store. -/
theorem answer_step_of_drops (s : Session σ) (hdrops : e.Drops id) {asked : Event σ}
    (hasks : asked.asks? = some id) : (s.step e).answer asked = s.stored? id := by
  have hstore : (s.step e).store = s.store := by
    cases e with
    | invalidate text => rfl
    | clear => rfl
    | _ => cases hdrops
  rw [answer_eq, hasks, Option.bind_some, found?, known?_step_of_drops s hdrops, Option.none_or,
    stored?_step s hstore]

end Session

/-- After any events, from a lookup that keeps nothing. Looking up, from a formula or not, tells the
table of an identifier as it was in the store when it was first found since it was given up; where
none is found nothing is kept; and when it is given up, the store is read the next time. A formula
gets the table of what the identifier in its reference means as a reference. That is the same
identifier for plain references and for no others; for plain references a formula and a lookup are
told the same table, and giving it up by the reference makes a formula read the store again. -/
theorem tables_kept_from_first_found (store : σ) (owner : String) (events : List (Event σ)) :
    let start : Session σ := ⟨store, { owner := owner }⟩
    let s := start.run events
    (∀ e id t, e.asks? = some id →
      (s.answer e = some t ↔ Session.FirstFound start (events ++ [e]) id t)) ∧
    (∀ text e, e = .reference text ∨ e = .lookup text →
      (s.answer e = none → s.step e = s) ∧ ∀ asked, (s.step e).answer asked = s.answer asked) ∧
    (∀ drop asked id, drop.Drops id → asked.asks? = some id →
      (s.step drop).answer asked = s.stored? id) ∧
    (∀ c text state, c.lookup = s.lookup.table? s.store →
      Formula.linkedTable c text state =
        .ok (((s.answer (.reference text)).map LinkedTable.toScript).getD .unit)
          { state with asked := (idOf? text).toList ++ state.asked }) ∧
    (∀ text, (Event.reference text : Event σ).asks? = (Event.lookup text : Event σ).asks? ↔
      IsPlain text) ∧
    ∀ text, IsPlain text →
      s.answer (.reference text) = s.answer (.lookup text) ∧
        (s.step (.invalidate text)).answer (.reference text) = (idOf? text).bind s.stored? := by
  intro start s
  have hplain (text : String) : (Event.reference text : Event σ).asks? =
      (Event.lookup text : Event σ).asks? ↔ IsPlain text := LinkedTable.idOf?_idOf?_iff
  refine ⟨fun e id t hasks => ?_, fun text e he => ⟨?_, ?_⟩, fun drop asked id hdrops hasks => ?_,
    fun c text state hc => linkedTable_eq hc text state, hplain, fun text htext => ⟨?_, ?_⟩⟩
  · have hkept : (start.run (events ++ [e])).lookup.known? id = s.answer e := by
      rw [Session.run_concat, Session.known?_step_of_asks? _ hasks, Session.answer_eq, hasks,
        Option.bind_some]
    rw [← hkept]
    exact Session.known?_run_eq_some_iff rfl _
  · exact Session.step_of_answer_eq_none he
  · exact s.answer_step he
  · exact s.answer_step_of_drops hdrops hasks
  · rw [Session.answer_eq, Session.answer_eq, (hplain text).mpr htext]
  · have hasks := (hplain text).mpr htext
    cases hid : idOf? text with
    | none =>
      rw [Session.answer_eq, hasks]
      show (idOf? text).bind _ = none
      rw [hid]
      rfl
    | some id =>
      have hdrops : (Event.invalidate text : Event σ).Drops id := hid
      exact s.answer_step_of_drops hdrops (hasks.trans hid)

/-- A store with one table. -/
def oneTable : Session MemoryStore where
  store := ⟨[⟨"x", "u", "old", "a", "", .epoch, .epoch⟩]⟩
  lookup := { owner := "u" }

/-- The table gets another name. -/
def renamed (s : MemoryStore) : MemoryStore :=
  match TableStore.save { now := .epoch } "u" "x" { name := some "new" } false s with
  | .ok s => s
  | .error _ => s

/-- With a blank behind the colon a formula means the table, and a lookup means none; and after the
table is given up by the same reference, a formula still sees it as it was. -/
theorem formula_sees_former_table :
    let text := ": x"
    let s := oneTable.run [.reference text, .change renamed, .invalidate text]
    (oneTable.answer (.reference text)).map LinkedTable.name = some "old" ∧
      (oneTable.answer (.lookup text)).map LinkedTable.name = none ∧
      (s.stored? "x").map LinkedTable.name = some "new" ∧
      (s.answer (.reference text)).map LinkedTable.name = some "old" := by
  refine ⟨?_, ?_, ?_, ?_⟩ <;> decide +kernel

end FormulaSheet.Lookup
