import FormulaSheet.Proofs.Document.Edits
import FormulaSheet.Proofs.Document.Saving
import FormulaSheet.Proofs.Workspace.Reopening

/-!
What an operation leaves behind in a workspace: the open document, with its history, and what the
saver was told. One that fails leaves nothing, and neither does an edit that comes back to the same
text. One that changes the text is told to the saver, once, and is a step of the history, unless it
goes along the history itself or belongs to a draft (`perform_traces`).
-/

namespace FormulaSheet

namespace Document

variable {d d' : Document} {o : Outlook} {rowId : String} {op : Operation}

theorem text_schedule (d : Document) (u : Update) : (d.schedule u).text = d.text :=
  congrArg History.present (schedule_history d u)

/-- Only edits and steps along the history change the text. -/
theorem text_eq_of_not_isEdit (hop : op.isEdit = false) (hundo : op ≠ .undo) (hredo : op ≠ .redo)
    (h : (d.perform o rowId op).1 = .ok d') : d'.text = d.text := by
  cases op with
  | startDraft =>
    cases h
    exact History.startDraft_present d.history
  | commitDraft =>
    cases h
    exact History.commitDraft_present d.history
  | undo => exact absurd rfl hundo
  | redo => exact absurd rfl hredo
  | setQuerySpec spec =>
    cases h
    exact congrArg History.present (setQuerySpec_history spec d)
  | rename name =>
    cases h
    exact congrArg History.present (rename_history name d)
  | _ => cases hop

/-- The text was changed by nothing but a change of the history. -/
theorem exists_textChanged (h : (d.perform o rowId op).1 = .ok d') (htext : d'.text ≠ d.text) :
    ∃ history, d' = { d with history := history }.textChanged := by
  cases perform_change h with
  | text history => exact ⟨history, rfl⟩
  | history history hsame => exact absurd hsame htext
  | query spec => exact absurd (text_schedule _ _) htext
  | name name => exact absurd (text_schedule _ _) htext

theorem textChanged_modified (d : Document) : d.textChanged.modified = true := by
  unfold textChanged schedule
  split <;> rfl

/-- What a document asks to be saved when its text has changed. -/
def textRequests (d : Document) : List SaveRequest :=
  match d.target with
  | some t => [⟨t.owner, t.id, { csv := some d.text }⟩]
  | none => []

theorem textChanged_outbox (d : Document) :
    d.textChanged.outbox = d.outbox ++ d.textChanged.textRequests := by
  cases ht : d.target with
  | none => simp [textChanged, schedule, textRequests, ht]
  | some t => simp [textChanged, schedule, textRequests, ht, text]

/-- An edit outside a draft is the newest step of the history, and nothing is ahead. -/
theorem replaceText_recorded {text : String} (htext : text ≠ d.text)
    (hidle : d.history.isDrafting = false) :
    (d.replaceText text).history.past =
        History.capped d.history.limit (d.text :: d.history.past) ∧
      (d.replaceText text).history.future = [] := by
  have htext : text ≠ d.history.present := htext
  rw [replaceText_history]
  unfold History.set
  rw [if_neg htext]
  simp [hidle, Document.text]

end Document

/-- The newest text is kept under every limit. -/
theorem History.head?_capped (limit : Nat) (text : String) (past : List String) :
    (capped limit (text :: past)).head? = some text := by
  cases limit with
  | zero => rfl
  | succ limit => rfl

namespace Workspace

open Document (Operation)

variable {σ : Type} [TableStore σ]

/-- How a change of the text by an operation shows, in the document and at the saver. -/
structure IsTraced (op : Operation) (d d' : Document) (saver saver' : Autosaver σ) : Prop where
  modified : d'.modified = true
  /-- The saver is told once, and of nothing but the new text. -/
  told : saver' = { saver with
    inbox := saver.inbox ++
      match d.target with
      | some t => [.save ⟨t.owner, t.id, { csv := some d'.text }⟩]
      | none => [] }
  /-- Outside a draft the text before is the newest step to go back to. -/
  remembered : d.history.isDrafting = false → op ≠ .undo → op ≠ .redo →
    d'.history.past.head? = some d.text ∧
      d'.history.past = History.capped d.history.limit (d.text :: d.history.past) ∧
      d'.history.future = []

variable {o : Occasion} {w w' : Workspace σ} {d : Document} {op : Operation}

theorem perform_eq_error {e : Error} (hw : w.document = some d)
    (h : w.perform o op = (.error e, w')) : w'.document = w.document ∧ w'.saver = w.saver := by
  unfold perform at h
  rw [hw] at h
  simp only at h
  split at h
  · cases h
  · cases h
    exact ⟨remember_document .., remember_saver ..⟩

theorem perform_eq_ok (hw : w.document = some d) (h : w.perform o op = (.ok (), w')) :
    ∃ d', (d.perform (w.outlook o.now.day) o.rowId op).1 = .ok d' ∧
      w'.document = some { d' with outbox := [] } ∧
      w'.saver = d'.outbox.foldl Autosaver.schedule w.saver := by
  unfold perform at h
  rw [hw] at h
  simp only at h
  split at h
  · rename_i d' asked heq
    cases h
    refine ⟨d', by rw [heq], rfl, ?_⟩
    show d'.outbox.foldl Autosaver.schedule (w.remember asked).saver = _
    rw [remember_saver]
  · cases h

/-- Pressing a button is one of the operations; it tells besides how many rows change. -/
theorem perform_pressButton (o : Occasion) (row column : Nat) (hw : w.document = some d) :
    w.perform o (.pressButton row column) =
      ((w.press o d row column).1.map fun _ => (), (w.press o d row column).2) := by
  rcases hp : d.pressButton (w.outlook o.now.day) row column with ⟨result, asked⟩
  cases result <;> simp [press, perform, hw, Document.perform, hp, Except.map]

omit [TableStore σ] in
theorem foldl_schedule (saver : Autosaver σ) (rs : List SaveRequest) :
    rs.foldl Autosaver.schedule saver =
      { saver with inbox := saver.inbox ++ rs.map Message.save } := by
  induction rs generalizing saver with
  | nil => simp
  | cons r rs ih => simp [ih, Autosaver.schedule]

/-- What an operation leaves behind. One that fails leaves the document and the saver as they were;
so does an edit that succeeds with the same text; and one that changes the text is traced. The
document has asked for nothing that the saver was not told, before and after. Pressing a button is
one of the operations. -/
theorem perform_traces (o : Occasion) (op : Operation) (hw : w.document = some d)
    (hsent : d.outbox = []) :
    (∀ e w', w.perform o op = (.error e, w') → w'.document = some d ∧ w'.saver = w.saver) ∧
      (∀ w', w.perform o op = (.ok (), w') → ∃ d', w'.document = some d' ∧ d'.outbox = [] ∧
        (op.isEdit = true → d'.text = d.text → d' = d ∧ w'.saver = w.saver) ∧
        (d'.text ≠ d.text → IsTraced op d d' w.saver w'.saver)) ∧
      ∀ row column, op = .pressButton row column → w.perform o op =
        ((w.press o d row column).1.map fun _ => (), (w.press o d row column).2) := by
  refine ⟨?_, ?_, ?_⟩
  · intro e w' h
    obtain ⟨hdocument, hsaver⟩ := perform_eq_error hw h
    exact ⟨hdocument.trans hw, hsaver⟩
  · intro w' h
    obtain ⟨d', hperform, hdocument, hsaver⟩ := perform_eq_ok hw h
    refine ⟨{ d' with outbox := [] }, hdocument, rfl, ?_, ?_⟩
    · intro hedit hsame
      have hsame : d'.text = d.text := hsame
      obtain ⟨text, rfl⟩ := Document.perform_edit hedit hperform
      rw [Document.text_replaceText] at hsame
      rw [hsame, Document.replaceText_self, hsent] at hsaver
      rw [hsame, Document.replaceText_self, ← hsent]
      exact ⟨rfl, hsaver⟩
    · intro hother
      have hother : d'.text ≠ d.text := hother
      constructor
      · obtain ⟨history, rfl⟩ := Document.exists_textChanged hperform hother
        exact Document.textChanged_modified _
      · have htarget : d'.target = d.target := (Document.perform_change hperform).target_eq
        have hout : d'.outbox = d'.textRequests := by
          obtain ⟨history, rfl⟩ := Document.exists_textChanged hperform hother
          rw [Document.textChanged_outbox]
          show d.outbox ++ _ = _
          rw [hsent, List.nil_append]
        rw [hsaver, foldl_schedule, hout, Document.textRequests, htarget]
        cases d.target <;> rfl
      · intro hidle hundo hredo
        cases hedit : op.isEdit with
        | false => exact absurd (Document.text_eq_of_not_isEdit hedit hundo hredo hperform) hother
        | true =>
          obtain ⟨text, rfl⟩ := Document.perform_edit hedit hperform
          rw [Document.text_replaceText] at hother
          obtain ⟨hpast, hfuture⟩ := Document.replaceText_recorded hother hidle
          refine ⟨?_, hpast, hfuture⟩
          show (d.replaceText text).history.past.head? = _
          rw [hpast]
          exact History.head?_capped ..
  · rintro row column rfl
    exact perform_pressButton o row column hw

/-- A table that is saved as it changes. -/
def saved : Document := (Document.new 0 "a\nb\nc").withTarget "ada" "t"

def savedOpen : Workspace MemoryStore := { saver := { store := {} }, document := some saved }

theorem perform_traces_saved :
    ∃ w' d', savedOpen.perform { now := .epoch } (.setCell 0 0 "x") = (.ok (), w') ∧
      w'.document = some d' ∧ d'.modified = true ∧ d'.history.past = ["a\nb\nc"] ∧
      w'.saver.inbox = [.save ⟨"ada", "t", { csv := some "a\nx\nc" }⟩] := by
  obtain ⟨-, hok, -⟩ := perform_traces (w := savedOpen) (d := saved) { now := .epoch }
    (.setCell 0 0 "x") rfl rfl
  obtain ⟨d', hdocument, -, -, htraced⟩ := hok _ rfl
  have hd : d' = { saved.replaceText "a\nx\nc" with outbox := [] } :=
    (Option.some.inj hdocument).symm
  have htext : d'.text = "a\nx\nc" := by
    rw [hd]
    rfl
  obtain ⟨hmodified, htold, hpast⟩ := htraced (by rw [htext]; decide)
  obtain ⟨-, hpast, -⟩ := hpast rfl (by decide) (by decide)
  refine ⟨_, d', rfl, hdocument, hmodified, hpast, ?_⟩
  rw [htold, htext]
  rfl

end Workspace

end FormulaSheet
