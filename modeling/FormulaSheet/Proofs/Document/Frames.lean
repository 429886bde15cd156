import FormulaSheet.Proofs.Document.Undoing
import FormulaSheet.Proofs.History.Forgetting
import FormulaSheet.Proofs.Table.Frame

/-!
What a document never loses: its header, its footer and a row between them. Every edit but replacing
the whole text keeps them, and steps back and ahead give a text that there was before; so a run stays
framed when the texts of the history have been so at its start (`frame_kept`). They need to be: a
step back behind the row that made a table of a header gives the header again (`frame_undone`).
-/

namespace FormulaSheet

open Csv (filled filledRow)

/-! ## The texts of a history -/

namespace History

/-- The texts that steps can give: the present one, those behind and ahead, and the one before an
open draft. -/
def texts (h : History) : List String := h.present :: (h.past ++ h.future ++ h.anchor.toList)

theorem mem_texts {h : History} {text : String} : text ∈ h.texts ↔
    text = h.present ∨ text ∈ h.past ∨ text ∈ h.future ∨ h.anchor = some text := by
  simp [texts]

variable {h : History} {text : String}

theorem mem_texts_capped {limit : Nat} (ht : text ∈ capped limit (h.present :: h.past)) :
    text ∈ h.texts := by
  rw [mem_texts]
  rcases List.mem_cons.mp ((prefix_capped limit _).subset ht) with rfl | hpast
  · exact .inl rfl
  · exact .inr (.inl hpast)

theorem mem_texts_set {new : String} (ht : text ∈ (h.set new).2.texts) :
    text = new ∨ text ∈ h.texts := by
  unfold History.set at ht
  split at ht
  · exact .inr ht
  · rcases mem_texts.mp ht with rfl | hpast | hfuture | hanchor
    · exact .inl rfl
    · right
      cases hd : h.isDrafting with
      | true =>
        rw [hd, if_pos rfl] at hpast
        exact mem_texts.mpr (.inr (.inl hpast))
      | false =>
        rw [hd, if_neg (by decide)] at hpast
        exact mem_texts_capped hpast
    · cases hfuture
    · exact .inr (mem_texts.mpr (.inr (.inr (.inr hanchor))))

theorem mem_texts_startDraft (ht : text ∈ h.startDraft.texts) : text ∈ h.texts := by
  unfold History.startDraft at ht
  split at ht
  · exact ht
  · rw [mem_texts] at ht ⊢
    rcases ht with hpresent | hpast | hfuture | hanchor
    · exact .inl hpresent
    · exact .inr (.inl hpast)
    · exact .inr (.inr (.inl hfuture))
    · exact .inl (Option.some.inj hanchor).symm

theorem mem_texts_commitDraft (ht : text ∈ h.commitDraft.texts) : text ∈ h.texts := by
  unfold History.commitDraft at ht
  split at ht
  · exact ht
  · rename_i start hstart
    split at ht
    · rw [mem_texts] at ht ⊢
      rcases ht with hpresent | hpast | hfuture | hanchor
      · exact .inl hpresent
      · exact .inr (.inl hpast)
      · exact .inr (.inr (.inl hfuture))
      · cases hanchor
    · rw [mem_texts] at ht ⊢
      rcases ht with hpresent | hpast | hfuture | hanchor
      · exact .inl hpresent
      · rcases List.mem_cons.mp ((prefix_capped _ _).subset hpast) with rfl | hpast
        · exact .inr (.inr (.inr hstart))
        · exact .inr (.inl hpast)
      · cases hfuture
      · cases hanchor

theorem mem_texts_undo (ht : text ∈ h.undo.2.texts) : text ∈ h.texts := by
  cases hp : h.past with
  | nil =>
    rw [undo_of_past_nil hp] at ht
    exact ht
  | cons behind past =>
    rw [undo_of_past hp] at ht
    rw [mem_texts] at ht ⊢
    rw [hp]
    rcases ht with rfl | hpast | hfuture | hanchor
    · exact .inr (.inl List.mem_cons_self)
    · exact .inr (.inl (List.mem_cons_of_mem _ hpast))
    · rcases List.mem_cons.mp hfuture with rfl | hfuture
      · exact .inl rfl
      · exact .inr (.inr (.inl hfuture))
    · cases hanchor

theorem mem_texts_redo (ht : text ∈ h.redo.2.texts) : text ∈ h.texts := by
  cases hf : h.future with
  | nil =>
    rw [redo_of_future_nil hf] at ht
    exact ht
  | cons next future =>
    unfold History.redo at ht
    rw [hf] at ht
    rcases mem_texts.mp ht with rfl | hpast | hfuture | hanchor
    · exact mem_texts.mpr (.inr (.inr (.inl (by rw [hf]; exact List.mem_cons_self))))
    · exact mem_texts_capped hpast
    · exact mem_texts.mpr
        (.inr (.inr (.inl (by rw [hf]; exact List.mem_cons_of_mem _ hfuture))))
    · cases hanchor

end History

namespace Document

namespace Operation

/-- Steps back and ahead. -/
def isTravel : Operation → Bool
  | .undo | .redo => true
  | _ => false

/-- Operations that add or delete a column. -/
def isColumnEdit : Operation → Bool
  | .insertColumn _ | .deleteColumn _ | .deleteEmptyColumn _ => true
  | _ => false

def isHeaderEdit : Operation → Bool
  | .setHeader .. => true
  | op => op.isColumnEdit

def isFooterEdit : Operation → Bool
  | .setFooter .. => true
  | op => op.isColumnEdit

theorem Edits.isFramed {rowId : String} {op : Operation} {g g' : Grid}
    {header footer : List String} (h : op.Edits rowId g g') (hg : g.IsFramed header footer) :
    ∃ header' footer', g'.IsFramed header' footer' ∧
      (op.isHeaderEdit = false → header' = header) ∧
      (op.isFooterEdit = false → footer' = footer) := by
  cases h with
  | setCell h => exact ⟨header, footer, hg.setCell h, fun _ => rfl, fun _ => rfl⟩
  | setHeader h =>
    obtain ⟨header', hg'⟩ := hg.renameColumn h
    exact ⟨header', footer, hg', nofun, fun _ => rfl⟩
  | setFooter column value =>
    obtain ⟨footer', hg'⟩ := hg.setFooterCell column value
    exact ⟨header, footer', hg', fun _ => rfl, nofun⟩
  | insertRowAbove h => exact ⟨header, footer, hg.insertRowAbove h, fun _ => rfl, fun _ => rfl⟩
  | insertRowBelow h => exact ⟨header, footer, hg.insertRowBelow h, fun _ => rfl, fun _ => rfl⟩
  | appendRow => exact ⟨header, footer, hg.appendRow rowId, fun _ => rfl, fun _ => rfl⟩
  | deleteRow h => exact ⟨header, footer, hg.deleteEmptyRow h, fun _ => rfl, fun _ => rfl⟩
  | insertColumn column =>
    obtain ⟨header', footer', hg'⟩ := hg.insertColumn column
    exact ⟨header', footer', hg', nofun, nofun⟩
  | deleteColumn h =>
    obtain ⟨header', footer', hg'⟩ := hg.deleteColumn h
    exact ⟨header', footer', hg', nofun, nofun⟩
  | deleteEmptyColumn h =>
    obtain ⟨header', footer', hg'⟩ := hg.deleteColumn (Grid.deleteColumn_of_deleteEmptyColumn h)
    exact ⟨header', footer', hg', nofun, nofun⟩
  | fillColumn h => exact ⟨header, footer, hg.fillColumn h, fun _ => rfl, fun _ => rfl⟩

end Operation

section

variable {d d' : Document} {c : Call} {g : Grid} {header footer : List String}

/-! ## Edits keep the frame -/

/-- Header and footer of a grid that was read have cells. -/
theorem frame_ne_nil (hg : d.grid.IsFramed header footer) : header ≠ [] ∧ footer ≠ [] := by
  obtain ⟨-, hrows⟩ := Csv.read_isFilled d.text
  exact ⟨hrows header (List.mem_of_getElem? hg.header),
    hrows footer (List.mem_of_getElem? hg.footer)⟩

theorem isFramed_replaceText_write (hg : g.IsFramed header footer) (d : Document) :
    (d.replaceText (Csv.write g)).grid.IsFramed (filledRow header) (filledRow footer) := by
  have hfilled : filled g = g.map filledRow := by
    cases g with
    | nil => exact absurd rfl hg.ne_nil
    | cons row rows => rfl
  rw [grid_replaceText_write, hfilled]
  exact hg.map filledRow

theorem isFramed_writeRows (columns : List String) (changes : List (Nat × Fields))
    (hg : g.IsFramed header footer) (hchanges : ∀ p ∈ changes, p.1 < g.bodySize) :
    (writeRows columns changes g).IsFramed header footer := by
  induction changes generalizing g with
  | nil => exact hg
  | cons p changes ih =>
    have hsize : Grid.bodySize (g.modify (p.1 + 1) (writeFields columns p.2)) = g.bodySize := by
      rw [Grid.bodySize, List.length_modify]
      rfl
    refine ih (hg.modify (hchanges p List.mem_cons_self) _) fun q hq => ?_
    rw [hsize]
    exact hchanges q (List.mem_cons_of_mem p hq)

theorem isFramed_writeBack (hg : d.grid.IsFramed header footer) (after : List Fields) :
    (d.writeBack after).2.grid.IsFramed header footer := by
  rcases writeBack_cases after d with ⟨-, hback⟩ | ⟨-, hback⟩
  · rw [hback]
    exact hg
  · have hsize : d.view.allFields.length = d.grid.bodySize :=
      (List.length_map _).trans d.grid.length_body
    have hrows := isFramed_writeRows d.view.columns (changedRows d.view.allFields after) hg
      fun p hp => hsize ▸ lt_of_mem_changedRows hp
    obtain ⟨hheader, hfooter⟩ := frame_ne_nil hg
    have hframed := isFramed_replaceText_write hrows d
    rw [Csv.filledRow_of_ne_nil hheader, Csv.filledRow_of_ne_nil hfooter] at hframed
    rw [hback]
    dsimp only
    exact hframed

/-- What becomes of the frame in a call that neither replaces the whole text nor goes back or
ahead. -/
theorem isFramed_after (hg : d.grid.IsFramed header footer)
    (hreplace : ∀ text, c.operation ≠ .replaceText text)
    (htravel : c.operation.isTravel = false) :
    ∃ header' footer', (d.after c).grid.IsFramed header' footer' ∧
      (c.operation.isHeaderEdit = false → header' = header) ∧
      (c.operation.isFooterEdit = false → footer' = footer) := by
  rcases eq_or_of_after d c with heq | hperform
  · rw [heq]
    exact ⟨header, footer, hg, fun _ => rfl, fun _ => rfl⟩
  · generalize d.after c = d' at hperform ⊢
    cases hgrid : c.operation.isGridEdit with
    | true =>
      obtain ⟨g, hedit, rfl⟩ := perform_gridEdit hgrid hperform
      obtain ⟨header', footer', hg', hheader, hfooter⟩ := hedit.isFramed hg
      obtain ⟨hheaderCells, hfooterCells⟩ := frame_ne_nil hg
      refine ⟨_, _, isFramed_replaceText_write hg' d, fun hop => ?_, fun hop => ?_⟩
      · rw [hheader hop, Csv.filledRow_of_ne_nil hheaderCells]
      · rw [hfooter hop, Csv.filledRow_of_ne_nil hfooterCells]
    | false =>
      have hsame (h : d'.history.present = d.history.present) :
          d'.grid.IsFramed header footer := by
        unfold grid Document.text
        rw [h]
        exact hg
      refine ⟨header, footer, ?_, fun _ => rfl, fun _ => rfl⟩
      cases hop : c.operation with
      | startDraft =>
        rw [hop] at hperform
        cases hperform
        exact hsame (History.startDraft_present d.history)
      | commitDraft =>
        rw [hop] at hperform
        cases hperform
        exact hsame (History.commitDraft_present d.history)
      | setQuerySpec spec =>
        rw [hop] at hperform
        cases hperform
        exact hsame (congrArg History.present (setQuerySpec_history spec d))
      | rename name =>
        rw [hop] at hperform
        cases hperform
        exact hsame (congrArg History.present (rename_history name d))
      | pressButton row column =>
        rw [hop] at hperform
        obtain ⟨after, rfl⟩ := perform_pressButton hperform
        exact isFramed_writeBack hg after
      | replaceText text => exact absurd hop (hreplace text)
      | undo => rw [hop] at htravel; cases htravel
      | redo => rw [hop] at htravel; cases htravel
      | _ => rw [hop] at hgrid; cases hgrid

/-! ## Steps back and ahead -/

theorem undo_eq_ok (h : d.undo = .ok d') : d'.history = d.history.undo.2 := by
  unfold undo at h
  split at h
  · rename_i history heq
    cases h
    rw [textChanged_history, heq]
  · cases h

theorem redo_eq_ok (h : d.redo = .ok d') : d'.history = d.history.redo.2 := by
  unfold redo at h
  split at h
  · rename_i history heq
    cases h
    rw [textChanged_history, heq]
  · cases h

/-- The history of a document holds no text that neither it held before nor the document has. -/
theorem mem_texts_after {text : String} (ht : text ∈ (d.after c).history.texts) :
    text = (d.after c).text ∨ text ∈ d.history.texts := by
  cases hplain : c.operation.isPlain with
  | true =>
    rw [history_after hplain] at ht
    exact History.mem_texts_set ht
  | false =>
    right
    rcases eq_or_of_after d c with heq | hperform
    · rw [heq] at ht
      exact ht
    · generalize d.after c = d' at hperform ht
      cases hop : c.operation with
      | startDraft =>
        rw [hop] at hperform
        cases hperform
        exact History.mem_texts_startDraft ht
      | commitDraft =>
        rw [hop] at hperform
        cases hperform
        exact History.mem_texts_commitDraft ht
      | undo =>
        rw [hop] at hperform
        rw [undo_eq_ok hperform] at ht
        exact History.mem_texts_undo ht
      | redo =>
        rw [hop] at hperform
        rw [redo_eq_ok hperform] at ht
        exact History.mem_texts_redo ht
      | _ => rw [hop] at hplain; cases hplain

theorem text_mem_texts (d : Document) : d.text ∈ d.history.texts := List.mem_cons_self

/-- A step back or ahead gives a text that the history holds. -/
theorem text_after_of_isTravel (htravel : c.operation.isTravel = true) :
    (d.after c).text ∈ d.history.texts := by
  have hmem := text_mem_texts (d.after c)
  rcases eq_or_of_after d c with heq | hperform
  · rw [heq] at hmem ⊢
    exact hmem
  · generalize d.after c = d' at hperform hmem ⊢
    cases hop : c.operation with
    | undo =>
      rw [hop] at hperform
      rw [undo_eq_ok hperform] at hmem
      exact History.mem_texts_undo hmem
    | redo =>
      rw [hop] at hperform
      rw [redo_eq_ok hperform] at hmem
      exact History.mem_texts_redo hmem
    | _ => rw [hop] at htravel; cases htravel

/-- After a run the history holds texts that it held before, and texts of the run. -/
theorem mem_texts_run {cs : List Call} {text : String} (ht : text ∈ (d.run cs).history.texts) :
    text ∈ d.history.texts ∨ ∃ earlier, earlier <+: cs ∧ text = (d.run earlier).text := by
  induction cs generalizing d with
  | nil => exact .inl ht
  | cons c cs ih =>
    rcases ih (d := d.after c) ht with hstart | ⟨earlier, hearlier, rfl⟩
    · rcases mem_texts_after hstart with rfl | hbefore
      · exact .inr ⟨[c], List.prefix_cons_inj c |>.mpr List.nil_prefix, rfl⟩
      · exact .inl hbefore
    · exact .inr ⟨c :: earlier, List.prefix_cons_inj c |>.mpr hearlier, rfl⟩

/-! ## Runs -/

/-- Every text that the document can be given by steps back and ahead is that of a framed table. -/
def IsFramed (d : Document) : Prop := ∀ text ∈ d.history.texts, 3 ≤ (Csv.read text).length

theorem IsFramed.rows (hd : d.IsFramed) : 3 ≤ d.grid.length := hd d.text d.text_mem_texts

theorem IsFramed.after (hd : d.IsFramed) (hreplace : ∀ text, c.operation ≠ .replaceText text) :
    (d.after c).IsFramed := by
  intro text ht
  rcases mem_texts_after ht with rfl | hbefore
  · cases htravel : c.operation.isTravel with
    | true => exact hd _ (text_after_of_isTravel htravel)
    | false =>
      obtain ⟨header, footer, hg⟩ := Grid.exists_isFramed hd.rows
      obtain ⟨_, _, hg', -⟩ := isFramed_after hg hreplace htravel
      exact hg'.rows
  · exact hd text hbefore

theorem IsFramed.run (hd : d.IsFramed) {cs : List Call}
    (hcs : ∀ c ∈ cs, ∀ text, c.operation ≠ .replaceText text) : (d.run cs).IsFramed := by
  induction cs generalizing d with
  | nil => exact hd
  | cons c cs ih =>
    exact ih (hd.after (hcs c List.mem_cons_self))
      fun c' hc' => hcs c' (List.mem_cons_of_mem c hc')

end

/-- A document goes through calls that do not replace its whole text, and all texts of its history
are those of a table with a header, a row and a footer. Then so is every text of the run. A call
changes the header only if it names, adds or deletes a column, and the footer only if it writes to the
footer or adds or deletes a column, steps back and ahead apart; and these give a text of the history
or one that the run has had before. -/
theorem frame_kept {d : Document} {cs : List Call} (hd : d.IsFramed)
    (hcs : ∀ c ∈ cs, ∀ text, c.operation ≠ .replaceText text) :
    (∀ before, before <+: cs → 3 ≤ (d.run before).grid.length) ∧
      ∀ before c after, cs = before ++ c :: after →
        let d₁ := d.run before
        let d₂ := d₁.after c
        (c.operation.isTravel = false →
          (c.operation.isHeaderEdit = false → d₂.grid.head? = d₁.grid.head?) ∧
          (c.operation.isFooterEdit = false → d₂.grid.getLast? = d₁.grid.getLast?)) ∧
        (c.operation.isTravel = true →
          d₂.text ∈ d.history.texts ∨
            ∃ earlier, earlier <+: before ∧ d₂.text = (d.run earlier).text) := by
  have hrun (before : List Call) (hbefore : before <+: cs) : (d.run before).IsFramed :=
    hd.run fun c hc => hcs c (hbefore.subset hc)
  refine ⟨fun before hbefore => (hrun before hbefore).rows, ?_⟩
  intro before c after heq d₁ d₂
  have hd₁ : d₁.IsFramed := hrun before ⟨c :: after, heq.symm⟩
  refine ⟨fun htravel => ?_, fun htravel => mem_texts_run (text_after_of_isTravel htravel)⟩
  have hreplace : ∀ text, c.operation ≠ .replaceText text := hcs c (by simp [heq])
  obtain ⟨header, footer, hg⟩ := Grid.exists_isFramed hd₁.rows
  obtain ⟨header', footer', hg', hheader, hfooter⟩ := isFramed_after hg hreplace htravel
  constructor
  · intro hop
    rw [List.head?_eq_getElem?, List.head?_eq_getElem?, hg'.header, hg.header, hheader hop]
  · intro hop
    rw [List.getLast?_eq_getElem?, List.getLast?_eq_getElem?, hg'.footer, hg.footer, hfooter hop]

/-- A table with one row, opened. -/
def oneRow : Document := new 0 "a,b\n1,2\nx,y"

/-- A draft of a cell, a row that is not there, a column that goes and comes back, and one step back
more. -/
def thereAndBack : List Call :=
  [.startDraft, .setCell 0 1 "3", .setCell 7 0 "", .commitDraft, .deleteColumn 0, .undo,
    .undo].map fun op => ⟨{ today := Instant.epoch.day }, "r", op⟩

theorem frame_kept_oneRow :
    (∀ before, before <+: thereAndBack → 3 ≤ (oneRow.run before).grid.length) ∧
      (oneRow.run (thereAndBack.take 2)).grid.getLast? =
        (oneRow.run (thereAndBack.take 1)).grid.getLast? ∧
      (oneRow.run thereAndBack).text = oneRow.text := by
  have hframed : oneRow.IsFramed := by
    intro text ht
    obtain rfl : text = oneRow.text := List.mem_singleton.mp ht
    decide +kernel
  have hcalls : ∀ c ∈ thereAndBack, ∀ text, c.operation ≠ .replaceText text := by
    simp [thereAndBack]
  obtain ⟨hrows, hcall⟩ := frame_kept hframed hcalls
  obtain ⟨hedit, -⟩ := hcall (thereAndBack.take 1) _ (thereAndBack.drop 2) rfl
  exact ⟨hrows, (hedit rfl).2 rfl, by decide +kernel⟩

/-- A header alone, which was then given a row. -/
def grown : Document := (new 0 "a").after ⟨{ today := Instant.epoch.day }, "r", .appendRow⟩

theorem frame_undone :
    let back : Call := ⟨{ today := Instant.epoch.day }, "r", .undo⟩
    3 ≤ grown.grid.length ∧ (∀ text, back.operation ≠ .replaceText text) ∧
      (grown.run [back]).grid.length = 1 ∧ (grown.run [back]).text ≠ grown.text := by
  refine ⟨by decide +kernel, nofun, by decide +kernel, by decide +kernel⟩

end Document

end FormulaSheet
