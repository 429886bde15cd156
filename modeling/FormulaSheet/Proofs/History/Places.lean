import FormulaSheet.Proofs.History.Reversal

/-!
A history as a place in a line of texts. The texts before the place are behind, those after it
ahead. Steps back and ahead move the place and leave the line as it is, and a change of the text at
the end of the line adds to it.
-/

namespace FormulaSheet.History

/-- The history stands at a place in a line of texts that its limit has room for, and an open draft
has not changed the text. -/
structure StandsAt (texts : List String) (place : Nat) (h : History) : Prop where
  past : h.past = (texts.take place).reverse
  present : texts[place]? = some h.present
  future : h.future = texts.drop (place + 1)
  room : h.limit ≠ 0 → texts.length ≤ h.limit + 1
  undrafted : ∀ text, h.anchor = some text → text = h.present

variable {h : History} {texts : List String} {place : Nat} {text : String}

theorem standsAt_start (hpast : h.past = []) (hfuture : h.future = []) (hidle : h.anchor = none) :
    h.StandsAt [h.present] 0 where
  past := hpast
  present := rfl
  future := hfuture
  room _ := Nat.le_add_left 1 h.limit
  undrafted text hanchor := by
    rw [hidle] at hanchor
    cases hanchor

theorem StandsAt.lt_length (hs : h.StandsAt texts place) : place < texts.length := by
  obtain ⟨hlt, -⟩ := List.getElem?_eq_some_iff.mp hs.present
  exact hlt

theorem StandsAt.length_past (hs : h.StandsAt texts place) : h.past.length = place := by
  have hlt := hs.lt_length
  rw [hs.past, List.length_reverse, List.length_take]
  omega

/-! ## Back and ahead -/

/-- The texts behind a later place, the nearest first. -/
theorem reverse_take_succ (htext : texts[place]? = some text) :
    (texts.take (place + 1)).reverse = text :: (texts.take place).reverse := by
  rw [List.take_add_one, htext]
  simp

/-- The texts from a place on. -/
theorem drop_eq_cons (htext : texts[place]? = some text) :
    texts.drop place = text :: texts.drop (place + 1) := by
  obtain ⟨hlt, rfl⟩ := List.getElem?_eq_some_iff.mp htext
  exact List.drop_eq_getElem_cons hlt

theorem StandsAt.undo (hs : h.StandsAt texts (place + 1)) :
    ∃ h', h.undo = (true, h') ∧ h'.StandsAt texts place := by
  have hlt := hs.lt_length
  obtain ⟨text, htext⟩ : ∃ text, texts[place]? = some text :=
    ⟨texts[place], List.getElem?_eq_getElem (by omega)⟩
  have hpast : h.past = text :: (texts.take place).reverse := by
    rw [hs.past, reverse_take_succ htext]
  refine ⟨_, undo_of_past hpast, rfl, htext, ?_, hs.room, ?_⟩
  · rw [drop_eq_cons hs.present, hs.future]
  · intro anchor hanchor
    cases hanchor

theorem StandsAt.undo_eq_false (hs : h.StandsAt texts 0) : h.undo = (false, h) :=
  undo_of_past_nil hs.past

theorem StandsAt.redo (hs : h.StandsAt texts place) (hlt : place + 1 < texts.length) :
    ∃ h', h.redo = (true, h') ∧ h'.StandsAt texts (place + 1) := by
  have htext : texts[place + 1]? = some texts[place + 1] := List.getElem?_eq_getElem hlt
  have hfuture : h.future = texts[place + 1] :: texts.drop (place + 1 + 1) := by
    rw [hs.future, drop_eq_cons htext]
  have hkept : capped h.limit (h.present :: h.past) = h.present :: h.past := by
    apply capped_eq_self
    intro hlimit
    have hroom := hs.room hlimit
    rw [List.length_cons, hs.length_past]
    omega
  have hredo : h.redo = (true, { h with
      past := h.present :: h.past, present := texts[place + 1],
      future := texts.drop (place + 1 + 1), anchor := none }) := by
    unfold History.redo
    rw [hfuture]
    simp only [hkept]
  refine ⟨_, hredo, ?_, htext, rfl, hs.room, ?_⟩
  · rw [reverse_take_succ hs.present, hs.past]
  · intro anchor hanchor
    cases hanchor

theorem StandsAt.redo_eq_false (hs : h.StandsAt texts place) (hlast : texts.length ≤ place + 1) :
    h.redo = (false, h) := by
  apply redo_of_future_nil
  rw [hs.future]
  exact List.drop_eq_nil_of_le hlast

/-! ## Other steps -/

theorem StandsAt.startDraft (hs : h.StandsAt texts place) :
    h.startDraft.StandsAt texts place := by
  unfold History.startDraft
  split
  · exact hs
  · refine ⟨hs.past, hs.present, hs.future, hs.room, ?_⟩
    intro text hanchor
    exact (Option.some.inj hanchor).symm

theorem StandsAt.commitDraft (hs : h.StandsAt texts place) :
    h.commitDraft.StandsAt texts place := by
  unfold History.commitDraft
  split
  · exact hs
  · rename_i text hanchor
    rw [if_pos (hs.undrafted text hanchor)]
    refine ⟨hs.past, hs.present, hs.future, hs.room, ?_⟩
    intro anchor hnone
    cases hnone

theorem set_self (h : History) : h.set h.present = (false, h) := if_pos rfl

/-- A new text at the end of the line. -/
theorem StandsAt.set (hs : h.StandsAt texts place) (hlast : place + 1 = texts.length)
    (hidle : h.anchor = none) (hother : text ≠ h.present)
    (hroom : h.limit ≠ 0 → texts.length ≤ h.limit) :
    (h.set text).2.StandsAt (texts ++ [text]) (place + 1) := by
  have hdrafting : h.isDrafting = false := by simp [isDrafting, hidle]
  have hkept : capped h.limit (h.present :: h.past) = h.present :: h.past := by
    apply capped_eq_self
    intro hlimit
    rw [List.length_cons, hs.length_past, hlast]
    exact hroom hlimit
  have hset : (h.set text).2 =
      { h with past := h.present :: h.past, present := text, future := [] } := by
    simp [History.set, hother, hdrafting, hkept]
  rw [hset]
  constructor
  · show h.present :: h.past = _
    rw [List.take_append_of_le_length (by omega), reverse_take_succ hs.present, hs.past]
  · show (texts ++ [text])[place + 1]? = some text
    rw [hlast]
    simp
  · show [] = _
    rw [List.drop_eq_nil_of_le]
    simp only [List.length_append, List.length_singleton]
    omega
  · intro hlimit
    have hroom := hroom hlimit
    simp only [List.length_append, List.length_singleton]
    show texts.length + 1 ≤ h.limit + 1
    omega
  · intro anchor hanchor
    have hanchor : h.anchor = some anchor := hanchor
    rw [hidle] at hanchor
    cases hanchor

/-! ## Lines without repetitions -/

/-- No text stands twice in a row. -/
def Varies (texts : List String) : Prop :=
  ∀ i text, texts[i]? = some text → texts[i + 1]? ≠ some text

theorem varies_singleton (text : String) : Varies [text] := by
  intro i other _
  simp

theorem Varies.concat (hv : Varies texts) (hs : h.StandsAt texts place)
    (hlast : place + 1 = texts.length) (hother : text ≠ h.present) :
    Varies (texts ++ [text]) := by
  intro i one hone htwo
  obtain ⟨hlt, -⟩ := List.getElem?_eq_some_iff.mp htwo
  simp only [List.length_append, List.length_singleton] at hlt
  rw [List.getElem?_append_left (by omega)] at hone
  by_cases hi : i + 1 < texts.length
  · rw [List.getElem?_append_left hi] at htwo
    exact hv i one hone htwo
  · obtain rfl : i = place := by omega
    rw [hlast] at htwo
    have hnew : text = one := by simpa using htwo
    have hold : h.present = one := Option.some.inj (hs.present.symm.trans hone)
    exact hother (hnew.trans hold.symm)

end FormulaSheet.History
