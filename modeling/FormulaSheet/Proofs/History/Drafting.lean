import FormulaSheet.Proofs.History.Forgetting

/-!
A draft is one step. While it is open the texts behind stay as they are, and of what is ahead there
is either everything or nothing: everything until the text changes for the first time, nothing from
then on (`run_of_drafting`). So however often the text changes in a draft, closing it leaves the
history as one change from the text before to the last one would (`draft_is_one_step`), and a draft
that comes back to its first text leaves no step.
-/

namespace FormulaSheet.History

/-- Steps that are taken within a draft and leave it open. -/
def Step.isDrafted : Step → Bool
  | .edit _ | .set _ | .startDraft => true
  | .commitDraft | .undo | .redo | .reset _ => false

/-- A draft in which the present text has become another one, after some change or none. -/
def drafted (h : History) (text : String) (changed : Bool) : History :=
  { h with present := text, future := if changed then [] else h.future }

variable {h : History} {steps : List Step}

/-! ## Within a draft -/

theorem set_of_drafting (hopen : h.isDrafting = true) (text : String) :
    h.set text = (decide (text ≠ h.present), h.drafted text (decide (text ≠ h.present))) := by
  unfold set
  by_cases htext : text = h.present
  · simp [htext, drafted]
  · simp [htext, hopen, drafted]

theorem startDraft_of_drafting (hopen : h.isDrafting = true) : h.startDraft = h := by
  obtain ⟨text, hanchor⟩ := Option.isSome_iff_exists.mp hopen
  simp [startDraft, hanchor]

theorem step_of_drafting (hopen : h.isDrafting = true) {s : Step} (hs : s.isDrafted = true) :
    ∃ text, h.step s = h.drafted text (decide (h.answer s = some true)) := by
  have hset (text : String) : (h.set text).2 = h.drafted text (h.set text).1 := by
    rw [set_of_drafting hopen]
  cases s with
  | edit f => exact ⟨f h.present, by simpa [step, edit, answer] using hset (f h.present)⟩
  | set text => exact ⟨text, by simpa [step, answer] using hset text⟩
  | startDraft =>
    refine ⟨h.present, ?_⟩
    rw [step, startDraft_of_drafting hopen]
    rfl
  | _ => cases hs

/-- Steps within a draft leave the texts behind and the one before the draft as they are, and
nothing ahead once one of them has changed the text. -/
theorem run_of_drafting (hopen : h.isDrafting = true) (hs : ∀ s ∈ steps, s.isDrafted = true) :
    ∃ text, h.run steps = h.drafted text (decide (some true ∈ h.answers steps)) := by
  induction steps generalizing h with
  | nil => exact ⟨h.present, rfl⟩
  | cons s steps ih =>
    obtain ⟨middle, hstep⟩ := step_of_drafting hopen (hs s (by simp))
    have hstill : (h.step s).isDrafting = true := by
      rw [hstep]
      exact hopen
    obtain ⟨text, hrun⟩ := ih hstill fun s' hs' => hs s' (by simp [hs'])
    have hlater : h.run (s :: steps) = (h.step s).run steps := rfl
    refine ⟨text, ?_⟩
    -- what the first change takes away stays away
    rw [hlater, hrun, hstep, answers]
    by_cases hfirst : h.answer s = some true
    · simp [drafted, hfirst]
    · have hne : some true ≠ h.answer s := fun heq => hfirst heq.symm
      simp [drafted, hfirst, hne, hstep]

/-! ## Closing it -/

/-- One change of the text while no draft is open. -/
theorem set_of_idle (hidle : h.anchor = none) {text : String} (hother : text ≠ h.present) :
    (h.set text).2 = { h with
      past := capped h.limit (h.present :: h.past), present := text, future := [],
      anchor := none } := by
  simp [set, hother, isDrafting, hidle]

theorem commitDraft_drafted (hidle : h.anchor = none) (text : String) (changed : Bool) :
    (h.startDraft.drafted text changed).commitDraft =
      if text = h.present then h.drafted text changed else (h.set text).2 := by
  have hstart : h.startDraft = { h with anchor := some h.present } := by simp [startDraft, hidle]
  rw [hstart]
  by_cases htext : text = h.present
  · simp [commitDraft, drafted, htext, hidle]
  · have hne : h.present ≠ text := fun heq => htext heq.symm
    simp [commitDraft, drafted, htext, hne, set_of_idle hidle]

/-- A draft that is opened on a history without one, and closed after any changes. If the text is
another one in the end, then the history is the same as after one change to it. If it is the one
before the draft, then all is as it was, but that nothing is ahead any more when the text has
changed in between. -/
theorem draft_is_one_step (hidle : h.isDrafting = false)
    (hs : ∀ s ∈ steps, s.isDrafted = true) :
    let during := h.startDraft.run steps
    (during.present ≠ h.present →
      during.commitDraft = (h.set during.present).2 ∧
        (h.set during.present).2 = { h with
          past := capped h.limit (h.present :: h.past), present := during.present, future := [],
          anchor := none }) ∧
    (during.present = h.present →
      during.commitDraft =
        { h with future := if some true ∈ h.startDraft.answers steps then [] else h.future }) := by
  intro during
  have hnone : h.anchor = none := by simpa [isDrafting] using hidle
  have hopen : h.startDraft.isDrafting = true := by simp [startDraft, hnone, isDrafting]
  obtain ⟨text, hrun⟩ := run_of_drafting hopen hs
  have hpresent : during.present = text := congrArg present hrun
  have hcommit : during.commitDraft =
      if text = h.present then h.drafted text (decide (some true ∈ h.startDraft.answers steps))
      else (h.set text).2 :=
    (congrArg commitDraft hrun).trans (commitDraft_drafted hnone _ _)
  rw [hpresent, hcommit]
  refine ⟨fun hne => ?_, fun heq => ?_⟩
  · rw [if_neg hne]
    exact ⟨rfl, set_of_idle hnone hne⟩
  · rw [if_pos heq, heq]
    simp [drafted]

/-- A history with a text ahead, and a draft that comes back to the text before it. -/
theorem draft_is_one_step_wandering :
    let h := (new 2 "a").run [.set "b", .undo]
    let steps := [Step.set "x", .startDraft, .edit fun text => text ++ "y", .set "a"]
    h.isDrafting = false ∧ h.future = ["b"] ∧ (∀ s ∈ steps, s.isDrafted = true) ∧
      (h.startDraft.run steps).commitDraft = { h with future := [] } := by
  intro h steps
  have hs : ∀ s ∈ steps, s.isDrafted = true := by simp [steps, Step.isDrafted]
  refine ⟨rfl, rfl, hs, ?_⟩
  exact (draft_is_one_step (h := h) rfl hs).2 rfl

end FormulaSheet.History
