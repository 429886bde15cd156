import FormulaSheet.Proofs.Document.Edits
import FormulaSheet.Proofs.Document.Saving
import FormulaSheet.Proofs.History.Places

/-!
Going back over what was done to a document, and ahead again. The texts that calls have given the
document stand in a line, and a history that has room for them goes along it text by text, whatever
operations have made the texts and whatever failed or changed nothing in between
(`undo_restores_texts`).
-/

namespace FormulaSheet.Document

/-- An operation in its surroundings, with the identifier of a new row. -/
structure Call where
  outlook : Outlook
  rowId : String
  operation : Operation

/-- Operations that have nothing to do with the history but to change the text. -/
def Operation.isPlain : Operation → Bool
  | .startDraft | .commitDraft | .undo | .redo => false
  | _ => true

/-- The document after a call, which leaves it as it was when it fails. -/
def after (d : Document) (c : Call) : Document :=
  match (d.perform c.outlook c.rowId c.operation).1 with
  | .ok d' => d'
  | .error _ => d

def run (d : Document) (cs : List Call) : Document := cs.foldl after d

/-- The texts after the calls that change the text. -/
def textsAfter (d : Document) : List Call → List String
  | [] => []
  | c :: cs =>
    if (d.after c).text = d.text then (d.after c).textsAfter cs
    else (d.after c).text :: (d.after c).textsAfter cs

/-- Every call fails or leaves the text as it was. -/
def IsIdle (d : Document) : List Call → Prop
  | [] => True
  | c :: cs => (d.after c).text = d.text ∧ (d.after c).IsIdle cs

instance IsIdle.decidable : (d : Document) → (cs : List Call) → Decidable (d.IsIdle cs)
  | _, [] => .isTrue trivial
  | d, c :: cs =>
    have := IsIdle.decidable (d.after c) cs
    inferInstanceAs (Decidable ((d.after c).text = d.text ∧ (d.after c).IsIdle cs))

/-- So many steps back. -/
def back : Nat → Document → Except Error Document
  | 0, d => .ok d
  | k + 1, d => d.undo.bind (back k)

/-- So many steps ahead. -/
def ahead : Nat → Document → Except Error Document
  | 0, d => .ok d
  | k + 1, d => d.redo.bind (ahead k)

section

variable {d d' : Document} {texts : List String} {place : Nat} {c : Call}

/-! ## Steps along the history -/

theorem undo_of_standsAt (hs : d.history.StandsAt texts (place + 1)) :
    ∃ d', d.undo = .ok d' ∧ d'.history.StandsAt texts place := by
  obtain ⟨h, hundo, hplace⟩ := hs.undo
  refine ⟨{ d with history := h }.textChanged, ?_, ?_⟩
  · unfold undo
    rw [hundo]
  · rw [textChanged_history]
    exact hplace

theorem undo_of_standsAt_zero (hs : d.history.StandsAt texts 0) :
    d.undo = .error .nothingToUndo := by
  unfold undo
  rw [hs.undo_eq_false]

theorem redo_of_standsAt (hs : d.history.StandsAt texts place)
    (hlt : place + 1 < texts.length) :
    ∃ d', d.redo = .ok d' ∧ d'.history.StandsAt texts (place + 1) := by
  obtain ⟨h, hredo, hplace⟩ := hs.redo hlt
  refine ⟨{ d with history := h }.textChanged, ?_, ?_⟩
  · unfold redo
    rw [hredo]
  · rw [textChanged_history]
    exact hplace

theorem redo_of_standsAt_last (hs : d.history.StandsAt texts place)
    (hlast : texts.length ≤ place + 1) : d.redo = .error .nothingToRedo := by
  unfold redo
  rw [hs.redo_eq_false hlast]

theorem back_of_standsAt (k : Nat) (hs : d.history.StandsAt texts (place + k)) :
    ∃ d', d.back k = .ok d' ∧ d'.history.StandsAt texts place := by
  induction k generalizing d with
  | zero => exact ⟨d, rfl, hs⟩
  | succ k ih =>
    obtain ⟨d', hundo, hplace⟩ := undo_of_standsAt hs
    obtain ⟨d'', hback, hend⟩ := ih hplace
    refine ⟨d'', ?_, hend⟩
    rw [back, hundo]
    exact hback

theorem ahead_of_standsAt (k : Nat) (hs : d.history.StandsAt texts place)
    (hlt : place + k < texts.length) :
    ∃ d', d.ahead k = .ok d' ∧ d'.history.StandsAt texts (place + k) := by
  induction k generalizing d place with
  | zero => exact ⟨d, rfl, hs⟩
  | succ k ih =>
    obtain ⟨d', hredo, hplace⟩ := redo_of_standsAt hs (by omega)
    obtain ⟨d'', hahead, hend⟩ := ih hplace (by omega)
    have hsum : place + 1 + k = place + (k + 1) := by omega
    refine ⟨d'', ?_, hsum ▸ hend⟩
    rw [ahead, hredo]
    exact hahead

/-! ## Calls that change nothing -/

theorem eq_or_of_after (d : Document) (c : Call) :
    d.after c = d ∨ (d.perform c.outlook c.rowId c.operation).1 = .ok (d.after c) := by
  unfold after
  cases (d.perform c.outlook c.rowId c.operation).1 with
  | error e => exact .inl rfl
  | ok d' => exact .inr rfl

/-- The history moves when the text changes, and only then: beside a text never stands the same one,
so a step back or ahead is a change. -/
theorem after_of_standsAt (hs : d.history.StandsAt texts place) (hv : History.Varies texts)
    (hsame : (d.after c).text = d.text) : (d.after c).history.StandsAt texts place := by
  rcases eq_or_of_after d c with heq | hperform
  · rw [heq]
    exact hs
  · generalize d.after c = d' at hsame hperform ⊢
    cases hop : c.operation with
    | startDraft =>
      rw [hop] at hperform
      cases hperform
      exact hs.startDraft
    | commitDraft =>
      rw [hop] at hperform
      cases hperform
      exact hs.commitDraft
    | undo =>
      rw [hop] at hperform
      have hundo : d.undo = .ok d' := hperform
      cases place with
      | zero =>
        rw [undo_of_standsAt_zero hs] at hundo
        cases hundo
      | succ place =>
        obtain ⟨_, hback, hplace⟩ := undo_of_standsAt hs
        rw [hback] at hundo
        cases hundo
        have htext : texts[place]? = some d.text := hsame ▸ hplace.present
        exact absurd hs.present (hv place d.text htext)
    | redo =>
      rw [hop] at hperform
      have hredo : d.redo = .ok d' := hperform
      by_cases hlt : place + 1 < texts.length
      · obtain ⟨_, hahead, hplace⟩ := redo_of_standsAt hs hlt
        rw [hahead] at hredo
        cases hredo
        have htext : texts[place + 1]? = some d.text := hsame ▸ hplace.present
        exact absurd htext (hv place d.text hs.present)
      · rw [redo_of_standsAt_last hs (by omega)] at hredo
        cases hredo
    | setQuerySpec spec =>
      rw [hop] at hperform
      cases hperform
      rw [setQuerySpec_history]
      exact hs
    | rename name =>
      rw [hop] at hperform
      cases hperform
      rw [rename_history]
      exact hs
    | _ =>
      obtain ⟨text, rfl⟩ := perform_edit (by rw [hop]; rfl) hperform
      rw [text_replaceText] at hsame
      rw [hsame, replaceText_self]
      exact hs

theorem run_of_standsAt (hs : d.history.StandsAt texts place) (hv : History.Varies texts)
    {cs : List Call} (hidle : d.IsIdle cs) : (d.run cs).history.StandsAt texts place := by
  induction cs generalizing d with
  | nil => exact hs
  | cons c cs ih =>
    obtain ⟨hsame, hrest⟩ := hidle
    exact ih (after_of_standsAt hs hv hsame) hrest

/-! ## Calls that change the text -/

/-- Whatever a call does that is none of the history's own, the history sees only its text. -/
theorem history_after (hc : c.operation.isPlain = true) :
    (d.after c).history = (d.history.set (d.after c).text).2 := by
  have hnothing : d.history = (d.history.set d.text).2 := by
    show _ = (d.history.set d.history.present).2
    rw [History.set_self]
  rcases eq_or_of_after d c with heq | hperform
  · rw [heq]
    exact hnothing
  · generalize d.after c = d' at hperform ⊢
    cases hop : c.operation with
    | startDraft => rw [hop] at hc; cases hc
    | commitDraft => rw [hop] at hc; cases hc
    | undo => rw [hop] at hc; cases hc
    | redo => rw [hop] at hc; cases hc
    | setQuerySpec spec =>
      rw [hop] at hperform
      cases hperform
      unfold Document.text
      rw [setQuerySpec_history]
      exact hnothing
    | rename name =>
      rw [hop] at hperform
      cases hperform
      unfold Document.text
      rw [rename_history]
      exact hnothing
    | _ =>
      obtain ⟨text, rfl⟩ := perform_edit (by rw [hop]; rfl) hperform
      rw [text_replaceText, replaceText_history]

theorem anchor_set (h : History) (text : String) : (h.set text).2.anchor = h.anchor := by
  unfold History.set
  split <;> rfl

/-- A run of calls that are none of the history's own adds the texts of the changes to the line and
stands at its end. -/
theorem run_standsAt_end {cs : List Call} (hs : d.history.StandsAt texts place)
    (hlast : place + 1 = texts.length) (hv : History.Varies texts)
    (hidle : d.history.anchor = none) (hcs : ∀ c ∈ cs, c.operation.isPlain = true)
    (hroom : d.history.limit ≠ 0 →
      texts.length + (d.textsAfter cs).length ≤ d.history.limit + 1) :
    (d.run cs).history.StandsAt (texts ++ d.textsAfter cs) (place + (d.textsAfter cs).length) ∧
      History.Varies (texts ++ d.textsAfter cs) := by
  induction cs generalizing d texts place with
  | nil =>
    rw [textsAfter, List.append_nil]
    exact ⟨hs, hv⟩
  | cons c cs ih =>
    have hset : (d.after c).history = (d.history.set (d.after c).text).2 :=
      history_after (hcs c List.mem_cons_self)
    have hrest : ∀ c ∈ cs, c.operation.isPlain = true :=
      fun c' hc' => hcs c' (List.mem_cons_of_mem c hc')
    have hanchor : (d.after c).history.anchor = none := by
      rw [hset, anchor_set]
      exact hidle
    have hlimit : (d.after c).history.limit = d.history.limit := by
      rw [hset]
      exact History.step_limit d.history (.set (d.after c).text)
    show ((d.after c).run cs).history.StandsAt _ _ ∧ _
    rw [textsAfter] at hroom ⊢
    by_cases htext : (d.after c).text = d.text
    · rw [if_pos htext] at hroom ⊢
      have hsame : (d.after c).history = d.history := by
        rw [hset, htext]
        exact congrArg Prod.snd (History.set_self d.history)
      exact ih (hsame ▸ hs) hlast hv hanchor hrest (hlimit.symm ▸ hroom)
    · rw [if_neg htext] at hroom ⊢
      simp only [List.length_cons] at hroom ⊢
      have hother : (d.after c).text ≠ d.history.present := htext
      have hplace := hs.set hlast hidle hother (fun hpos => by have := hroom hpos; omega)
      rw [← hset] at hplace
      have hvaries := hv.concat hs hlast hother
      have hend := ih hplace (by simp [hlast]) hvaries hanchor hrest (by
        intro hpos
        have := hroom (hlimit ▸ hpos)
        simp only [List.length_append, List.length_singleton]
        omega)
      have hsum : place + 1 + ((d.after c).textsAfter cs).length =
          place + (((d.after c).textsAfter cs).length + 1) := by omega
      rw [List.append_assoc, List.singleton_append, hsum] at hend
      exact hend

end

/-- A document without a history has gone through some calls, none of them one of the history's own,
and the history has room for all texts that they gave it. Then every number of steps back, up to the
start, gives the text that was there so many changes before; after any calls that fail or leave the
text as it is, as many steps ahead give the last text again; and from the start there is no step
back. -/
theorem undo_restores_texts {d : Document} (hpast : d.history.past = [])
    (hfuture : d.history.future = []) (hidle : d.history.anchor = none) {cs : List Call}
    (hcs : ∀ c ∈ cs, c.operation.isPlain = true)
    (hroom : d.history.limit ≠ 0 → (d.textsAfter cs).length ≤ d.history.limit)
    {k : Nat} (hk : k ≤ (d.textsAfter cs).length) :
    ∃ d₁, (d.run cs).back k = .ok d₁ ∧
      (d.text :: d.textsAfter cs)[(d.textsAfter cs).length - k]? = some d₁.text ∧
      (∀ cs', d₁.IsIdle cs' → ∃ d₂, (d₁.run cs').ahead k = .ok d₂ ∧
        (d.text :: d.textsAfter cs)[(d.textsAfter cs).length]? = some d₂.text) ∧
      (k = (d.textsAfter cs).length →
        d₁.undo = .error .nothingToUndo ∧ ∀ o rowId, d₁.after ⟨o, rowId, .undo⟩ = d₁) := by
  have hstart : d.history.StandsAt [d.text] 0 := History.standsAt_start hpast hfuture hidle
  obtain ⟨hend, hvaries⟩ := run_standsAt_end hstart rfl (History.varies_singleton d.text) hidle hcs
    (by
      intro hpos
      have := hroom hpos
      simp only [List.length_singleton]
      omega)
  rw [List.singleton_append] at hend hvaries
  obtain ⟨j, hj⟩ : ∃ j, (d.textsAfter cs).length = j + k :=
    ⟨(d.textsAfter cs).length - k, by omega⟩
  rw [Nat.zero_add, hj] at hend
  obtain ⟨d₁, hback, hplace⟩ := back_of_standsAt k hend
  have hj' : (d.textsAfter cs).length - k = j := by omega
  refine ⟨d₁, hback, ?_, ?_, ?_⟩
  · rw [hj']
    exact hplace.present
  · intro cs' hidle'
    obtain ⟨d₂, hahead, hlast⟩ := ahead_of_standsAt k (run_of_standsAt hplace hvaries hidle')
      hend.lt_length
    refine ⟨d₂, hahead, ?_⟩
    rw [hj]
    exact hlast.present
  · intro hall
    obtain rfl : j = 0 := by omega
    have hnone : d₁.undo = .error .nothingToUndo := undo_of_standsAt_zero hplace
    refine ⟨hnone, ?_⟩
    intro o rowId
    show (match d₁.undo with
      | .ok d' => d'
      | .error _ => d₁) = d₁
    rw [hnone]

/-- A text that is written differently as soon as anything is edited. -/
def quoted : Document := new 3 "\"a\",b\n1,2\n,"

/-- Three changes, the first one of the notation alone; the other calls fail or change no text. -/
def threeChanges : List Call :=
  [.setCell 9 0 "x", .setHeader 0 "a", .setCell 0 0 "3", .setCell 0 0 "3", .deleteRow 0,
    .setQuerySpec "\"a\":ASC", .setHeader 1 "c"].map
      fun op => ⟨{ today := Instant.epoch.day }, "r", op⟩

/-- One step too many, and the text as it is. -/
def noChanges : List Call :=
  [.undo, .replaceText quoted.text].map fun op => ⟨{ today := Instant.epoch.day }, "r", op⟩

theorem undo_restores_texts_quoted :
    ∃ d₁, (quoted.run threeChanges).back 3 = .ok d₁ ∧ d₁.text = quoted.text ∧
      d₁.undo = .error .nothingToUndo ∧
      ∃ d₂, (d₁.run noChanges).ahead 3 = .ok d₂ ∧ d₂.text = "a,c\n3,2\n," := by
  have htexts : quoted.textsAfter threeChanges =
      ["a,b\n1,2\n,", "a,b\n3,2\n,", "a,c\n3,2\n,"] := by decide +kernel
  have hcount : (quoted.textsAfter threeChanges).length = 3 := by
    rw [htexts]
    rfl
  have hplain : ∀ c ∈ threeChanges, c.operation.isPlain = true := by decide
  have hroom : (quoted.textsAfter threeChanges).length ≤ quoted.history.limit :=
    Nat.le_of_eq hcount
  obtain ⟨d₁, hback, hstart, hagain, hnone⟩ :=
    undo_restores_texts (d := quoted) rfl rfl rfl hplain (fun _ => hroom) (Nat.le_of_eq hcount.symm)
  obtain ⟨hundo, hafter⟩ := hnone hcount.symm
  have htext : d₁.text = quoted.text := by
    rw [hcount] at hstart
    exact (Option.some.inj hstart).symm
  have hidle : d₁.IsIdle noChanges := by
    refine ⟨?_, ?_, trivial⟩
    · rw [hafter]
    · rw [hafter]
      show (d₁.replaceText quoted.text).text = d₁.text
      rw [text_replaceText, htext]
  obtain ⟨d₂, hahead, hlast⟩ := hagain noChanges hidle
  rw [htexts] at hlast
  exact ⟨d₁, hback, htext, hundo, d₂, hahead, (Option.some.inj hlast).symm⟩

end FormulaSheet.Document
