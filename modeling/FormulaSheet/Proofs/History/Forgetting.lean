import FormulaSheet.Proofs.History.Reversal

/-!
What a limit makes a history forget. Beside a history that keeps everything, one with a limit
forgets its oldest texts and nothing else: as long as there has been a step back for it wherever
there was one for the other, the same steps give the same answers and the same texts now and ahead
(`limited_recalls`).
-/

namespace FormulaSheet.History

/-- What a step answers, if it answers anything. -/
def answer (h : History) : Step → Option Bool
  | .edit f => some (h.edit f).1
  | .set text => some (h.set text).1
  | .undo => some h.undo.1
  | .redo => some h.redo.1
  | .startDraft | .commitDraft | .reset _ => none

/-- The answers of some steps, one after the other. -/
def answers (h : History) : List Step → List (Option Bool)
  | [] => []
  | s :: steps => h.answer s :: (h.step s).answers steps

/-- Among some steps there is no step back that fails on the one history and not on the other. -/
def KeepsUp (h full : History) (steps : List Step) : Prop :=
  ∀ before after, steps = before ++ .undo :: after →
    (full.run before).undo.1 = true → (h.run before).undo.1 = true

/-- The one history is the other but for the oldest texts. -/
structure Recalls (h full : History) : Prop where
  past : h.past <+: full.past
  present : h.present = full.present
  future : h.future = full.future
  anchor : h.anchor = full.anchor

theorem prefix_capped (limit : Nat) (past : List String) : capped limit past <+: past := by
  unfold capped
  split
  · exact List.prefix_refl past
  · exact List.take_prefix limit past

variable {h full : History}

theorem keepsUp_nil : KeepsUp h full [] := by
  intro before after heq
  cases before with
  | nil => cases heq
  | cons s before => cases heq

theorem keepsUp_cons {s : Step} {steps : List Step} : KeepsUp h full (s :: steps) ↔
    (s = .undo → full.undo.1 = true → h.undo.1 = true) ∧
      KeepsUp (h.step s) (full.step s) steps := by
  constructor
  · intro hk
    refine ⟨?_, fun before after heq => ?_⟩
    · rintro rfl
      exact hk [] steps rfl
    · exact hk (s :: before) after (by rw [heq, List.cons_append])
  · rintro ⟨hhead, htail⟩ before after heq
    cases before with
    | nil =>
      obtain ⟨rfl, -⟩ := List.cons.inj heq
      exact hhead rfl
    | cons b before =>
      obtain ⟨rfl, hsteps⟩ := List.cons.inj heq
      exact htail before after hsteps

/-! ## Each step -/

/-- What is put before the texts behind stays in front when the oldest are forgotten. -/
theorem Recalls.capped (hr : h.Recalls full) (hfull : full.limit = 0) (text : String) :
    capped h.limit (text :: h.past) <+: capped full.limit (text :: full.past) := by
  have hkept : History.capped full.limit (text :: full.past) = text :: full.past := if_pos hfull
  rw [hkept]
  exact (prefix_capped h.limit _).trans (List.prefix_cons_inj text |>.mpr hr.past)

theorem Recalls.set (hr : h.Recalls full) (hfull : full.limit = 0) (text : String) :
    (h.set text).2.Recalls (full.set text).2 ∧ (h.set text).1 = (full.set text).1 := by
  have hdrafting : h.isDrafting = full.isDrafting := congrArg Option.isSome hr.anchor
  have hcapped := hr.capped hfull h.present
  unfold History.set
  rw [← hr.present, ← hdrafting]
  by_cases htext : text = h.present
  · rw [if_pos htext, if_pos htext]
    exact ⟨hr, rfl⟩
  · rw [if_neg htext, if_neg htext]
    refine ⟨⟨?_, rfl, rfl, hr.anchor⟩, rfl⟩
    cases h.isDrafting with
    | true => exact hr.past
    | false => exact hcapped

theorem Recalls.startDraft (hr : h.Recalls full) : h.startDraft.Recalls full.startDraft := by
  unfold History.startDraft
  rw [← hr.anchor]
  cases hanchor : h.anchor with
  | some text => exact hr
  | none => exact ⟨hr.past, hr.present, hr.future, congrArg some hr.present⟩

theorem Recalls.commitDraft (hr : h.Recalls full) (hfull : full.limit = 0) :
    h.commitDraft.Recalls full.commitDraft := by
  unfold History.commitDraft
  rw [← hr.anchor, ← hr.present]
  cases hanchor : h.anchor with
  | none => exact hr
  | some text =>
    by_cases htext : text = h.present
    · simp only [if_pos htext]
      exact ⟨hr.past, rfl, hr.future, rfl⟩
    · simp only [if_neg htext]
      exact ⟨hr.capped hfull text, rfl, rfl, rfl⟩

/-- Going back is the same on both where the history with a limit has something to go back to. -/
theorem Recalls.undo (hr : h.Recalls full) (hk : full.undo.1 = true → h.undo.1 = true) :
    h.undo.2.Recalls full.undo.2 ∧ h.undo.1 = full.undo.1 := by
  have hpast := hr.past
  cases hh : h.past with
  | nil =>
    have hnone : full.past = [] := by
      cases hf : full.past with
      | nil => rfl
      | cons text past =>
        have hfailed := hk (by rw [undo_of_past hf])
        rw [undo_of_past_nil hh] at hfailed
        cases hfailed
    rw [undo_of_past_nil hh, undo_of_past_nil hnone]
    exact ⟨hr, rfl⟩
  | cons text past =>
    obtain ⟨older, holder⟩ := hpast
    rw [hh, List.cons_append] at holder
    rw [undo_of_past hh, undo_of_past holder.symm, hr.present, hr.future]
    exact ⟨⟨List.prefix_append past older, rfl, rfl, rfl⟩, rfl⟩

theorem Recalls.redo (hr : h.Recalls full) (hfull : full.limit = 0) :
    h.redo.2.Recalls full.redo.2 ∧ h.redo.1 = full.redo.1 := by
  have hcapped := hr.capped hfull h.present
  unfold History.redo
  rw [← hr.future, ← hr.present]
  cases h.future with
  | nil => exact ⟨hr, rfl⟩
  | cons text future => exact ⟨⟨hcapped, rfl, rfl, rfl⟩, rfl⟩

theorem Recalls.step (hr : h.Recalls full) (hfull : full.limit = 0) {s : Step}
    (hk : s = .undo → full.undo.1 = true → h.undo.1 = true) :
    (h.step s).Recalls (full.step s) ∧ h.answer s = full.answer s := by
  cases s with
  | edit f =>
    obtain ⟨hstep, hanswer⟩ := hr.set hfull (f h.present)
    have hedit : full.edit f = full.set (f h.present) := by rw [edit, hr.present]
    rw [History.step, History.step, answer, answer, hedit]
    exact ⟨hstep, congrArg some hanswer⟩
  | set text =>
    obtain ⟨hstep, hanswer⟩ := hr.set hfull text
    exact ⟨hstep, congrArg some hanswer⟩
  | startDraft => exact ⟨hr.startDraft, rfl⟩
  | commitDraft => exact ⟨hr.commitDraft hfull, rfl⟩
  | undo =>
    obtain ⟨hstep, hanswer⟩ := hr.undo (hk rfl)
    exact ⟨hstep, congrArg some hanswer⟩
  | redo =>
    obtain ⟨hstep, hanswer⟩ := hr.redo hfull
    exact ⟨hstep, congrArg some hanswer⟩
  | reset text => exact ⟨⟨List.prefix_refl [], rfl, rfl, rfl⟩, rfl⟩

theorem Recalls.run (hr : h.Recalls full) (hfull : full.limit = 0) {steps : List Step}
    (hk : KeepsUp h full steps) :
    (h.run steps).Recalls (full.run steps) ∧ h.answers steps = full.answers steps := by
  induction steps generalizing h full with
  | nil => exact ⟨hr, rfl⟩
  | cons s steps ih =>
    obtain ⟨hback, hrest⟩ := keepsUp_cons.mp hk
    obtain ⟨hstep, hanswer⟩ := hr.step hfull hback
    have hlimit : (full.step s).limit = 0 := by
      rw [step_limit]
      exact hfull
    obtain ⟨hrun, hanswers⟩ := ih hstep hlimit hrest
    refine ⟨hrun, ?_⟩
    rw [answers, answers, hanswer, hanswers]

/-- The same steps from the same text, within a limit and without one. As long as no step back has
failed within the limit that was one without it, all answers are the same, the texts now and ahead and
the text before an open draft are the same, and the texts behind are the nearest of those behind
without the limit, no more than it allows. -/
theorem limited_recalls {limit : Nat} (hlimit : limit ≠ 0) (text : String) (steps : List Step)
    (hk : KeepsUp (new limit text) (new 0 text) steps) :
    let h := (new limit text).run steps
    let full := (new 0 text).run steps
    (new limit text).answers steps = (new 0 text).answers steps ∧
      h.present = full.present ∧ h.future = full.future ∧ h.anchor = full.anchor ∧
      h.past <+: full.past ∧ h.past.length ≤ limit := by
  intro h full
  have hstart : (new limit text).Recalls (new 0 text) := ⟨List.prefix_refl [], rfl, rfl, rfl⟩
  obtain ⟨hr, hanswers⟩ := hstart.run rfl hk
  have hbound : h.past.length + h.future.length ≤ h.limit := by
    apply ((isReversible_new limit text).run steps).bounded
    rw [run_limit]
    exact hlimit
  have hsame : h.limit = limit := run_limit (new limit text) steps
  exact ⟨hanswers, hr.present, hr.future, hr.anchor, hr.past, by omega⟩

/-- More changes than the limit keeps, one of them a draft, and a step back and ahead. -/
def manyChanges : List Step :=
  [.set "b", .startDraft, .set "c", .commitDraft, .set "d", .undo, .redo]

theorem limited_recalls_manyChanges :
    KeepsUp (new 2 "a") (new 0 "a") manyChanges ∧
      (new 2 "a").answers manyChanges = (new 0 "a").answers manyChanges ∧
      ((new 2 "a").run manyChanges).past = ["c", "b"] ∧
      ((new 0 "a").run manyChanges).past = ["c", "b", "a"] := by
  have hk : KeepsUp (new 2 "a") (new 0 "a") manyChanges := by
    refine keepsUp_cons.mpr ⟨nofun, keepsUp_cons.mpr ⟨nofun, keepsUp_cons.mpr ⟨nofun, ?_⟩⟩⟩
    refine keepsUp_cons.mpr ⟨nofun, keepsUp_cons.mpr ⟨nofun, ?_⟩⟩
    exact keepsUp_cons.mpr ⟨fun _ _ => rfl, keepsUp_cons.mpr ⟨nofun, keepsUp_nil⟩⟩
  exact ⟨hk, (limited_recalls (by decide) "a" manyChanges hk).1, rfl, rfl⟩

end FormulaSheet.History
