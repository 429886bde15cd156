import FormulaSheet.History

/-!
Going back and ahead undo each other. A history remembers no more texts behind and ahead than its
limit allows, so going ahead never forgets one; and while a draft is open there is nothing ahead
unless the draft has not changed the text. Both hold after any steps (`IsReversible.run`).
-/

namespace FormulaSheet.History

/-- What can be done to a history. -/
inductive Step where
  | edit (f : String → String)
  | set (text : String)
  | startDraft
  | commitDraft
  | undo
  | redo
  | reset (text : String)

def step (h : History) : Step → History
  | .edit f => (h.edit f).2
  | .set text => (h.set text).2
  | .startDraft => h.startDraft
  | .commitDraft => h.commitDraft
  | .undo => h.undo.2
  | .redo => h.redo.2
  | .reset text => h.reset text

def run (h : History) (steps : List Step) : History := steps.foldl step h

/-- The history fits within its limit, and an open draft with texts ahead has not changed the
present one. -/
structure IsReversible (h : History) : Prop where
  bounded : h.limit ≠ 0 → h.past.length + h.future.length ≤ h.limit
  undrafted : ∀ text, h.anchor = some text → h.future ≠ [] → text = h.present

/-! ## The limit -/

theorem length_capped_le {limit : Nat} (hlimit : limit ≠ 0) (past : List String) :
    (capped limit past).length ≤ limit := by
  rw [capped, if_neg hlimit, List.length_take]
  omega

/-- Nothing is forgotten where there is room. -/
theorem capped_eq_self {limit : Nat} {past : List String}
    (h : limit ≠ 0 → past.length ≤ limit) : capped limit past = past := by
  unfold capped
  split
  · rfl
  · rename_i hlimit
    exact List.take_of_length_le (h hlimit)

/-! ## What the steps do -/

variable {h : History}

theorem undo_of_past {text : String} {past : List String} (hp : h.past = text :: past) :
    h.undo = (true, { h with
      past := past, present := text, future := h.present :: h.future, anchor := none }) := by
  simp [undo, hp]

theorem undo_of_past_nil (hp : h.past = []) : h.undo = (false, h) := by simp [undo, hp]

/-- Going ahead keeps all texts behind. -/
theorem IsReversible.redo_of_future (hr : h.IsReversible) {text : String} {future : List String}
    (hf : h.future = text :: future) :
    h.redo = (true, { h with
      past := h.present :: h.past, present := text, future := future, anchor := none }) := by
  have hkept : capped h.limit (h.present :: h.past) = h.present :: h.past := by
    refine capped_eq_self fun hlimit => ?_
    have hb := hr.bounded hlimit
    simp only [hf, List.length_cons] at hb ⊢
    omega
  simp [redo, hf, hkept]

theorem redo_of_future_nil (hf : h.future = []) : h.redo = (false, h) := by simp [redo, hf]

theorem step_limit (h : History) (s : Step) : (h.step s).limit = h.limit := by
  cases s with
  | edit f => simp only [step, edit, set]; split <;> rfl
  | set text => simp only [step, set]; split <;> rfl
  | startDraft => simp only [step, startDraft]; split <;> rfl
  | commitDraft =>
    simp only [step, commitDraft]
    split
    · rfl
    · split <;> rfl
  | undo => simp only [step, undo]; split <;> rfl
  | redo => simp only [step, redo]; split <;> rfl
  | reset text => rfl

theorem run_limit (h : History) (steps : List Step) : (h.run steps).limit = h.limit := by
  induction steps generalizing h with
  | nil => rfl
  | cons s steps ih => exact (ih (h.step s)).trans (step_limit h s)

/-! ## Every step keeps a history reversible -/

theorem isReversible_new (limit : Nat) (text : String) : (new limit text).IsReversible where
  bounded _ := Nat.zero_le _
  undrafted _ hanchor := by cases hanchor

/-- A change of the text leaves nothing ahead. -/
theorem IsReversible.set (hr : h.IsReversible) (text : String) :
    (h.set text).2.IsReversible := by
  unfold History.set
  split
  · exact hr
  · refine ⟨fun hlimit => ?_, fun _ _ hfuture => absurd rfl hfuture⟩
    cases hd : h.isDrafting with
    | true =>
      have hb := hr.bounded hlimit
      simp only [if_true, List.length_nil]
      omega
    | false => simpa using length_capped_le hlimit (h.present :: h.past)

theorem IsReversible.startDraft (hr : h.IsReversible) : h.startDraft.IsReversible := by
  unfold History.startDraft
  split
  · exact hr
  · exact ⟨hr.bounded, fun text hanchor _ => (Option.some.inj hanchor).symm⟩

theorem IsReversible.commitDraft (hr : h.IsReversible) : h.commitDraft.IsReversible := by
  unfold History.commitDraft
  split
  · exact hr
  · split
    · exact ⟨hr.bounded, fun _ hanchor => by cases hanchor⟩
    · refine ⟨fun hlimit => ?_, fun _ hanchor => by cases hanchor⟩
      simpa using length_capped_le hlimit _

theorem IsReversible.undo (hr : h.IsReversible) : h.undo.2.IsReversible := by
  cases hp : h.past with
  | nil =>
    rw [undo_of_past_nil hp]
    exact hr
  | cons text past =>
    rw [undo_of_past hp]
    refine ⟨fun hlimit => ?_, fun _ hanchor => by cases hanchor⟩
    have hb := hr.bounded hlimit
    simp only [hp, List.length_cons] at hb ⊢
    omega

theorem IsReversible.redo (hr : h.IsReversible) : h.redo.2.IsReversible := by
  cases hf : h.future with
  | nil =>
    rw [redo_of_future_nil hf]
    exact hr
  | cons text future =>
    rw [hr.redo_of_future hf]
    refine ⟨fun hlimit => ?_, fun _ hanchor => by cases hanchor⟩
    have hb := hr.bounded hlimit
    simp only [hf, List.length_cons] at hb ⊢
    omega

theorem IsReversible.step (hr : h.IsReversible) (s : Step) : (h.step s).IsReversible := by
  cases s with
  | edit f => exact hr.set (f h.present)
  | set text => exact hr.set text
  | startDraft => exact hr.startDraft
  | commitDraft => exact hr.commitDraft
  | undo => exact hr.undo
  | redo => exact hr.redo
  | reset text => exact isReversible_new h.limit text

theorem IsReversible.run (hr : h.IsReversible) (steps : List Step) :
    (h.run steps).IsReversible := by
  induction steps generalizing h with
  | nil => exact hr
  | cons s steps ih => exact ih (hr.step s)

/-! ## Back and ahead again -/

theorem IsReversible.redo_undo (hr : h.IsReversible) (hu : h.undo.1 = true) :
    h.undo.2.redo = (true, { h with anchor := none }) := by
  cases hp : h.past with
  | nil => simp [undo_of_past_nil hp] at hu
  | cons text past =>
    have hahead := hr.undo
    rw [undo_of_past hp] at hahead ⊢
    rw [hahead.redo_of_future rfl, ← hp]

theorem IsReversible.undo_redo (hr : h.IsReversible) (hd : h.redo.1 = true) :
    h.redo.2.undo = (true, { h with anchor := none }) := by
  cases hf : h.future with
  | nil => simp [redo_of_future_nil hf] at hd
  | cons text future => rw [hr.redo_of_future hf, undo_of_past rfl, ← hf]

/-- After any steps from a new history: a step back and one ahead, in either order, give the same
texts behind, now and ahead, where only an open draft is closed; within a limit there are never
more texts behind and ahead than the limit; and while a draft is open and there is something
ahead, the present text is the one before the draft, so that going ahead loses no text. -/
theorem undo_redo_inverse (limit : Nat) (text : String) (steps : List Step) :
    let h := (new limit text).run steps
    (h.undo.1 = true → h.undo.2.redo = (true, { h with anchor := none })) ∧
      (h.redo.1 = true → h.redo.2.undo = (true, { h with anchor := none })) ∧
      (limit ≠ 0 → h.past.length + h.future.length ≤ limit) ∧
      (h.isDrafting = true → h.canRedo = true → h.anchor = some h.present) := by
  intro h
  have hr : h.IsReversible := (isReversible_new limit text).run steps
  have hlimit : h.limit = limit := run_limit _ steps
  refine ⟨hr.redo_undo, hr.undo_redo, fun hpos => ?_, fun hdrafting hahead => ?_⟩
  · rw [← hlimit] at hpos ⊢
    exact hr.bounded hpos
  · obtain ⟨text', hanchor⟩ := Option.isSome_iff_exists.mp hdrafting
    have hfuture : h.future ≠ [] := by simpa [canRedo] using hahead
    rw [hanchor, hr.undrafted text' hanchor hfuture]

end FormulaSheet.History
