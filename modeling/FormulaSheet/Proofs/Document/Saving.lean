import FormulaSheet.Proofs.Autosave.Merging
import FormulaSheet.Proofs.Document.Edits

/-!
What operations ask to be saved. An operation that succeeds does one of four things (`Change`), and
each of them sends along what makes a record of the document before into a record of the document
after (`Change.sends`).
-/

namespace FormulaSheet

theorem History.startDraft_present (h : History) : h.startDraft.present = h.present := by
  unfold startDraft
  split <;> rfl

theorem History.commitDraft_present (h : History) : h.commitDraft.present = h.present := by
  unfold commitDraft
  split
  · rfl
  · split <;> rfl

namespace Document

/-- What an operation makes of a document: another text, the same text with another history,
another query or another name. -/
inductive Change (d : Document) : Document → Prop
  | text (h : History) : Change d { d with history := h }.textChanged
  | history (h : History) : h.present = d.history.present → Change d { d with history := h }
  | query (spec : String) :
    Change d ({ d with querySpec := spec, query := .ofSpec spec }.schedule
      { querySpec := some spec })
  | name (name : String) : Change d ({ d with name := name }.schedule { name := some name })

/-! ## Every operation is a change -/

section

variable {d d' : Document}

theorem Change.refl (d : Document) : Change d d := .history d.history rfl

theorem replaceText_change (text : String) (d : Document) : Change d (d.replaceText text) := by
  unfold replaceText
  split
  · exact .text _
  · exact .refl d

theorem undo_change (h : d.undo = .ok d') : Change d d' := by
  unfold undo at h
  split at h
  · cases h
    exact .text _
  · cases h

theorem redo_change (h : d.redo = .ok d') : Change d d' := by
  unfold redo at h
  split at h
  · cases h
    exact .text _
  · cases h

theorem setQuerySpec_change (spec : String) (d : Document) : Change d (d.setQuerySpec spec) := by
  unfold setQuerySpec
  split
  · exact .refl d
  · exact .query spec

theorem rename_change (name : String) (d : Document) : Change d (d.rename name) := by
  unfold rename
  split
  · exact .refl d
  · exact .name name

theorem perform_change {o : Outlook} {rowId : String} {op : Operation}
    (h : (d.perform o rowId op).1 = .ok d') : Change d d' := by
  cases hedit : op.isEdit with
  | true =>
    obtain ⟨text, rfl⟩ := perform_edit hedit h
    exact replaceText_change text d
  | false =>
    cases op with
    | startDraft =>
      cases h
      exact .history _ (History.startDraft_present _)
    | commitDraft =>
      cases h
      exact .history _ (History.commitDraft_present _)
    | undo => exact undo_change h
    | redo => exact redo_change h
    | setQuerySpec spec =>
      cases h
      exact setQuerySpec_change spec d
    | rename name =>
      cases h
      exact rename_change name d
    | _ => cases hedit

/-! ## What a change sends -/

/-- The record holds the text, the query and, without blanks around it, the name of the
document. -/
def IsRecordedBy (d : Document) (r : Record) : Prop :=
  r.csv = d.text ∧ r.querySpec = d.querySpec ∧ r.name = Record.trimmedName d.name

theorem IsRecordedBy.congr {r r' : Record} (h : d.IsRecordedBy r)
    (hr : r.timeless = r'.timeless) : d.IsRecordedBy r' := by
  obtain ⟨htext, hquery, hname⟩ := h
  simp only [Record.timeless, Record.mk.injEq] at hr
  obtain ⟨-, -, hrname, hrcsv, hrquery, -⟩ := hr
  exact ⟨hrcsv ▸ htext, hrquery ▸ hquery, hrname ▸ hname⟩

theorem Change.target_eq (h : Change d d') : d'.target = d.target := by
  cases h <;> simp only [textChanged, schedule] <;> split <;> rfl

/-- The query of the document is the one that its text says. -/
theorem Change.query_eq (h : Change d d') (hd : d.query = .ofSpec d.querySpec) :
    d'.query = .ofSpec d'.querySpec := by
  cases h with
  | text h =>
    simp only [textChanged, schedule]
    split <;> exact hd
  | history h _ => exact hd
  | query spec =>
    simp only [schedule]
    split <;> rfl
  | name name =>
    simp only [schedule]
    split <;> exact hd

/-- What a change sends is for the target, and makes every record of the document before into one
of the document after. -/
theorem Change.sends (h : Change d d') {t : SaveTarget} (ht : d.target = some t) :
    ∃ us, d'.outbox = d.outbox ++ us.map (SaveRequest.mk t.owner t.id) ∧
      ∀ r now, d.IsRecordedBy r → d'.IsRecordedBy (r.apply (Update.merged us) now) := by
  cases h with
  | text h =>
    refine ⟨[{ csv := some h.present }], by simp [textChanged, schedule, ht, Document.text], ?_⟩
    rintro r now ⟨-, hquery, hname⟩
    simp [IsRecordedBy, textChanged, schedule, ht, Record.apply, Document.text, Update.merge,
      hquery, hname]
  | history h hp =>
    refine ⟨[], by simp, ?_⟩
    rintro r now ⟨htext, hquery, hname⟩
    exact ⟨htext.trans hp.symm, hquery, hname⟩
  | query spec =>
    refine ⟨[{ querySpec := some spec }], by simp [schedule, ht], ?_⟩
    rintro r now ⟨htext, -, hname⟩
    simp [IsRecordedBy, schedule, ht, Record.apply, Update.merge, htext, hname, Document.text]
  | name name =>
    refine ⟨[{ name := some name }], by simp [schedule, ht], ?_⟩
    rintro r now ⟨htext, hquery, -⟩
    simp [IsRecordedBy, schedule, ht, Record.apply, Update.merge, htext, hquery, Document.text]

end

end Document

end FormulaSheet
