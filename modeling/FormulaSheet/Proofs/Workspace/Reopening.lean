import FormulaSheet.Proofs.Autosave.Holding
import FormulaSheet.Proofs.Document.Saving
import FormulaSheet.Proofs.Store.Memory
import FormulaSheet.Workspace

/-!
An open document, the saver behind it and the store agree. While nobody else writes its table, the
record that the store held when the document was opened, the updates that were asked for since
then applied to it, records the document (`Agrees`); so after a flush the document can be opened
again as it is.
-/

namespace FormulaSheet.Workspace

open Autosaver (IsCalm IsKept Completes since)

/-- What happens to an open document, and behind it to its saver. An operation during a save of the
table is one after that save was cancelled. -/
inductive Event where
  | perform (o : Occasion) (op : Document.Operation)
  | flush (o : Occasion)
  | background (e : Autosaver.Event)

/-- An event in which nobody else asks for the table and nothing fails from outside. -/
def Event.Spares (id : String) : Event → Prop
  | .background e => e.Spares id
  | _ => True

variable {σ : Type} [TableStore σ]

def step (w : Workspace σ) : Event → Workspace σ
  | .perform o op => (w.perform o op).2
  | .flush o => w.flush o
  | .background e => { w with saver := w.saver.step e }

def run (w : Workspace σ) (es : List Event) : Workspace σ := es.foldl step w

theorem remember_saver (w : Workspace σ) (asked : List String) :
    (w.remember asked).saver = w.saver := by
  unfold remember
  split <;> rfl

theorem remember_document (w : Workspace σ) (asked : List String) :
    (w.remember asked).document = w.document := by
  unfold remember
  split <;> rfl

theorem flush_saver {o : Occasion} {w : Workspace σ} {d : Document} (hw : w.document = some d)
    (ht : d.target.isSome) : (w.flush o).saver = w.saver.flush o := by
  simp [flush, hw, ht]

/-- A flush changes no more of the open document than whether it counts as modified. -/
theorem flush_document {o : Occasion} {w : Workspace σ} {d : Document} (hw : w.document = some d) :
    (w.flush o).document = some d.flushed := by
  unfold flush
  rw [hw]
  simp only
  split
  · rfl
  · rename_i ht
    simp [hw, Document.flushed, ht]

variable [LawfulStore σ]

/-- The document is open and its table is kept by the saver: the record that was there, changed as
was asked for, records the document. -/
structure Agrees (owner id : String) (origin : Record) (w : Workspace σ) (d : Document) : Prop
    where
  document : w.document = some d
  target : d.target = some ⟨owner, id⟩
  sent : d.outbox = []
  query : d.query = .ofSpec d.querySpec
  kept : ∃ asked, IsKept owner id origin asked w.saver ∧
    ∀ now, d.IsRecordedBy (origin.apply asked now)

section

variable {owner id : String} {origin : Record} {w : Workspace σ} {d : Document}

/-- The document handed to the saver what a change of it asks for. -/
theorem Agrees.put (h : Agrees owner id origin w d) {w' : Workspace σ} (hw' : w'.saver = w.saver)
    {d' : Document} (hchange : d.Change d') :
    Agrees owner id origin (w'.put d') { d' with outbox := [] } := by
  obtain ⟨-, htarget, hsent, hquery, asked, hkept, hrecorded⟩ := h
  obtain ⟨us, hout, hus⟩ := hchange.sends htarget
  have hout : d'.outbox = us.map (SaveRequest.mk owner id) := by rw [hout, hsent, List.nil_append]
  refine ⟨rfl, hchange.target_eq.trans htarget, rfl, hchange.query_eq hquery,
    asked.merge (Update.merged us), ?_, fun now => ?_⟩
  · have hrun := hkept.run (d'.outbox.map .schedule)
      (fun e he => by
        obtain ⟨r, -, rfl⟩ := List.mem_map.mp he
        simp [Autosaver.Event.flights, IsCalm])
      (fun r hr _ => by
        rw [Autosaver.scheduled_schedules, hout] at hr
        obtain ⟨u, -, rfl⟩ := List.mem_map.mp hr
        rfl)
    rwa [Autosaver.scheduled_schedules, hout, updatesFor_map_mk, ← hout,
      ← Autosaver.foldl_schedule_eq_run, ← hw'] at hrun
  · have hafter : d'.IsRecordedBy ((origin.apply asked now).apply (Update.merged us) now) :=
      hus _ now (hrecorded now)
    exact hafter.congr (Record.timeless_apply_apply ..)

theorem Agrees.perform (h : Agrees owner id origin w d) (o : Occasion) (op : Document.Operation) :
    ∃ d', Agrees owner id origin (w.perform o op).2 d' := by
  have hw := h.document
  cases hp : d.perform (w.outlook o.now.day) o.rowId op with
  | mk result asked =>
    cases result with
    | ok d' =>
      have hafter : (w.perform o op).2 = (w.remember asked).put d' := by
        simp [Workspace.perform, hw, hp]
      have hchange : d.Change d' := Document.perform_change (by rw [hp])
      exact ⟨_, hafter ▸ h.put (remember_saver ..) hchange⟩
    | error e =>
      have hafter : (w.perform o op).2 = w.remember asked := by simp [Workspace.perform, hw, hp]
      obtain ⟨-, htarget, hsent, hquery, hkept⟩ := h
      rw [hafter]
      exact ⟨d, (remember_document ..).trans hw, htarget, hsent, hquery,
        by rwa [remember_saver]⟩

theorem Agrees.flush (h : Agrees owner id origin w d) (o : Occasion) :
    Agrees owner id origin (w.flush o) d.flushed := by
  obtain ⟨hw, htarget, hsent, hquery, asked, hkept, hrecorded⟩ := h
  have hsaver : (w.flush o).saver = w.saver.flush o := flush_saver hw (by simp [htarget])
  have hflushed : d.flushed = { d with modified := false } := by
    simp [Document.flushed, htarget]
  refine ⟨flush_document hw, ?_, ?_, ?_, asked, ?_, ?_⟩
  · rw [hflushed, htarget]
  · rw [hflushed, hsent]
  · rw [hflushed]
    exact hquery
  · rw [hsaver]
    exact hkept.flush o
  · rw [hflushed]
    exact hrecorded

theorem Agrees.step (h : Agrees owner id origin w d) {e : Event} (he : e.Spares id) :
    ∃ d', Agrees owner id origin (w.step e) d' := by
  cases e with
  | perform o op => exact h.perform o op
  | flush o => exact ⟨_, h.flush o⟩
  | background e =>
    obtain ⟨hw, htarget, hsent, hquery, asked, hkept, hrecorded⟩ := h
    have hstep : IsKept owner id origin asked (w.saver.step e) :=
      hkept.run_spared [e] fun e' he' => by
        rw [List.mem_singleton.mp he']
        exact he
    exact ⟨d, hw, htarget, hsent, hquery, asked, hstep, hrecorded⟩

theorem Agrees.run (h : Agrees owner id origin w d) (es : List Event)
    (hes : ∀ e ∈ es, e.Spares id) : ∃ d', Agrees owner id origin (w.run es) d' := by
  induction es generalizing w d with
  | nil => exact ⟨d, h⟩
  | cons e es ih =>
    obtain ⟨d', h'⟩ := h.step (hes e (by simp))
    exact ih h' fun e' he' => hes e' (by simp [he'])

/-- Opening an owner's table works, and what is opened is what is stored. -/
theorem agrees_openTable (o : Occasion) (limit : Nat)
    (hgrown : LawfulStore.IsGrown w.saver.store)
    (hload : TableStore.load owner id w.saver.store = .ok origin)
    (hidle : ∀ r ∈ w.saver.waiting, r.id ≠ id) (hcalm : IsCalm id w.saver.flights) :
    ∃ w' d, w.openTable o limit owner id true = .ok w' ∧ Agrees owner id origin w' d := by
  obtain ⟨hrec, howner⟩ := LawfulStore.load_eq_ok_iff.mp hload
  have hstart : IsKept owner id origin {} w.saver :=
    .start hgrown.isSound hrec howner hcalm hidle
  have hkept : IsKept owner id origin {} (w.close o).saver := by
    change IsKept owner id origin {} (w.flush o).saver
    unfold Workspace.flush
    split
    · exact hstart
    · split
      · exact hstart.flush o
      · exact hstart
  let d := (Document.ofRecord limit origin).withTarget owner id
  have hopen : w.openTable o limit owner id true =
      .ok { w.close o with document := some d, viewer := some owner } := by
    simp [openTable, Document.load?, hload, Except.map, bind, Except.bind, pure, Except.pure, d]
  exact ⟨_, d, hopen, rfl, rfl, rfl, rfl, {}, hkept, fun now =>
    ⟨rfl, rfl, (hgrown.isNamed hrec).symm⟩⟩

end

/-- Every stored table can be opened with autosave and, while nobody else writes it, opened again as
it is after anything that is done to the document: a flush that cancels no save of it leaves a
record with the document's text, query and, without blanks around it, name. Meanwhile the query is
at every moment the one that its text says. -/
theorem reopened_after_flush {w : Workspace σ} {owner id : String} {origin : Record} (o : Occasion)
    (limit : Nat) (hgrown : LawfulStore.IsGrown w.saver.store)
    (hload : TableStore.load owner id w.saver.store = .ok origin)
    (hidle : ∀ r ∈ w.saver.waiting, r.id ≠ id) (hcalm : IsCalm id w.saver.flights) :
    ∃ w', w.openTable o limit owner id true = .ok w' ∧ ∀ es, (∀ e ∈ es, Event.Spares id e) →
      (∀ es', es' <+: es →
        ∃ d, (w'.run es').document = some d ∧ d.query = .ofSpec d.querySpec) ∧
      ∀ o', Completes id (since (w'.run es).saver ((w'.run es).flush o').saver) →
        ∃ d, (w'.run es).document = some d ∧ ∀ limit', ∃ d',
          Document.load? limit' owner id ((w'.run es).flush o').saver.store = .ok d' ∧
            d'.text = d.text ∧ d'.querySpec = d.querySpec ∧ d'.query = .ofSpec d.querySpec ∧
            d'.name = Record.trimmedName d.name ∧ d'.history = .new limit' d.text := by
  obtain ⟨w', d₀, hopen, hstart⟩ := agrees_openTable o limit hgrown hload hidle hcalm
  refine ⟨w', hopen, fun es hspares => ⟨fun es' hes' => ?_, fun o' hflush => ?_⟩⟩
  · obtain ⟨d, h⟩ := hstart.run es' fun e he => hspares e (hes'.mem he)
    exact ⟨d, h.document, h.query⟩
  · obtain ⟨d, h⟩ := hstart.run es hspares
    obtain ⟨asked, hkept, hrecorded⟩ := h.kept
    rw [flush_saver h.document (by simp [h.target])] at hflush ⊢
    obtain ⟨r, hr, howner, htimeless⟩ := hkept.record?_flush hflush
    obtain ⟨htext, hquery, hname⟩ := (hrecorded .epoch).congr htimeless.symm
    refine ⟨d, h.document, fun limit' => ⟨.ofRecord limit' r, ?_, htext, hquery, ?_, hname, ?_⟩⟩
    · rw [Document.load?, LawfulStore.load_eq_ok_iff.mpr ⟨hr, howner⟩]
      rfl
    · exact congrArg Query.ofSpec hquery
    · exact congrArg (History.new limit') htext

/-- A workspace over a store with one new table. -/
def oneTable : Workspace MemoryStore :=
  { saver := { store := ⟨[.new "t" "ada" none "r" .epoch]⟩ } }

theorem isGrown_oneTable : LawfulStore.IsGrown oneTable.saver.store := by
  have hcreate : TableStore.create { now := .epoch, tableId := "t", rowId := "r" } "ada" none
      ({} : MemoryStore) = .ok (.new "t" "ada" none "r" .epoch, oneTable.saver.store) := rfl
  exact .create (.empty trivial fun _ => rfl) hcreate

/-- The first save of a new text is cancelled, and then the table is renamed. -/
def cancelledThenRenamed : List Event :=
  [.background (.plan [{ cancelled := true }]),
    .perform { now := .epoch } (.replaceText "x"), .flush { now := .epoch },
    .perform { now := .epoch } (.rename " b ")]

theorem reopened_after_flush_of_cancelledThenRenamed :
    ∃ w' d', oneTable.openTable { now := .epoch } 0 "ada" "t" true = .ok w' ∧
      Document.load? 0 "ada" "t"
        ((w'.run cancelledThenRenamed).flush { now := .epoch }).saver.store = .ok d' ∧
      d'.text = "x" ∧ d'.name = "b" := by
  have hload : TableStore.load "ada" "t" oneTable.saver.store =
      .ok (.new "t" "ada" none "r" .epoch) := rfl
  obtain ⟨w', hopen, hrun⟩ := reopened_after_flush { now := .epoch } 0 isGrown_oneTable hload
    (by decide +kernel) (by decide +kernel)
  have hopened : .ok _ = Except.ok w' := hopen
  cases hopened
  obtain ⟨d, hd, hagain⟩ := (hrun cancelledThenRenamed
    (by simp [cancelledThenRenamed, Event.Spares, Autosaver.Event.Spares, IsCalm])).2
    { now := .epoch } (by decide +kernel)
  obtain ⟨d', hd', htext, -, -, hname, -⟩ := hagain 0
  have hd : some _ = some d := hd
  cases hd
  have htrimmed : Record.trimmedName " b " = "b" := by decide
  exact ⟨_, d', hopen, hd', htext, hname.trans htrimmed⟩

end FormulaSheet.Workspace
