import FormulaSheet.Number.Numeral
import FormulaSheet.Proofs.Text.Scanning
import Mathlib.Data.List.DropRight

/-!
Texts without the blanks at their ends. There is no blank in front of what is left and none behind
it, and so nothing more is taken away from any end of it that begins with no blank.
-/

namespace FormulaSheet.Number

variable {cs ds : List Char}

theorem head?_trimmed (cs : List Char) : ∀ c ∈ (trimmed cs).head?, Text.isBlank c = false := by
  intro c hc
  obtain ⟨more, hmore⟩ : trimmed cs <+: cs.dropWhile Text.isBlank :=
    List.rdropWhile_prefix Text.isBlank _
  have hne : trimmed cs ≠ [] := by
    rintro hnil
    simp [hnil] at hc
  have hnot := List.head?_dropWhile_not Text.isBlank cs
  rw [← hmore, List.head?_append_of_ne_nil _ hne, hc] at hnot
  simpa using hnot

theorem trimmed_of_isSuffix (h : ds <:+ trimmed cs)
    (hfront : ∀ c ∈ ds.head?, Text.isBlank c = false) : trimmed ds = ds := by
  show (ds.dropWhile Text.isBlank).rdropWhile Text.isBlank = ds
  rw [Scanning.dropWhile_eq_self hfront, List.rdropWhile_eq_self_iff]
  intro hne
  -- its last character is the last one of the whole
  rw [h.getLast hne]
  exact List.rdropWhile_last_not Text.isBlank (cs.dropWhile Text.isBlank) (h.ne_nil hne)

theorem trimmed_trimmed (cs : List Char) : trimmed (trimmed cs) = trimmed cs :=
  trimmed_of_isSuffix (List.suffix_refl _) (head?_trimmed cs)

/-- A text that does not get shorter has no blanks at its ends. -/
theorem trimmed_of_length_le (h : cs.length ≤ (trimmed cs).length) : trimmed cs = cs := by
  have hback : trimmed cs <+: cs.dropWhile Text.isBlank := List.rdropWhile_prefix Text.isBlank _
  have hfront : cs.dropWhile Text.isBlank <:+ cs := List.dropWhile_suffix Text.isBlank
  have hdrop : cs.dropWhile Text.isBlank = cs :=
    hfront.eq_of_length (Nat.le_antisymm hfront.length_le (h.trans hback.length_le))
  rw [hdrop] at hback
  exact hback.eq_of_length (Nat.le_antisymm hback.length_le h)

/-- Blanks around a text without blanks are taken away. -/
theorem trimmed_blanks {ws ws' : List Char} (hws : ∀ c ∈ ws, Text.isBlank c = true)
    (hws' : ∀ c ∈ ws', Text.isBlank c = true) (hcs : ∀ c ∈ cs, Text.isBlank c = false) :
    trimmed (ws ++ cs ++ ws') = cs := by
  rw [trimmed, List.append_assoc, List.dropWhile_append_of_pos hws]
  cases cs with
  | nil =>
    rw [List.nil_append, List.dropWhile_eq_nil_iff.mpr hws']
    rfl
  | cons c cs =>
    have hfront : ((c :: cs) ++ ws').dropWhile Text.isBlank = (c :: cs) ++ ws' :=
      Scanning.dropWhile_eq_self fun d hd => by
        cases hd
        exact hcs c List.mem_cons_self
    have hback : (c :: cs).reverse.dropWhile Text.isBlank = (c :: cs).reverse :=
      Scanning.dropWhile_eq_self fun d hd => hcs d (List.mem_reverse.mp (List.mem_of_mem_head? hd))
    rw [hfront, List.reverse_append, List.dropWhile_append_of_pos, hback, List.reverse_reverse]
    intro d hd
    exact hws' d (List.mem_reverse.mp hd)

end FormulaSheet.Number
