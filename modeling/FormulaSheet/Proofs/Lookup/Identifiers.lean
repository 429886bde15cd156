import FormulaSheet.Formula.Context
import FormulaSheet.Proofs.Text.Trimming

/-!
Identifiers in references to tables. A reference loses the blanks around it and one colon in front.
What is left can be taken for a reference itself, and then it loses more of its front, unless it
begins with neither a blank nor a colon (`idOf?_idOf?_iff`).
-/

namespace FormulaSheet.LinkedTable

variable {reference id : String} {cs : List Char}

/-- A text without one colon in front. -/
def unmarked : List Char → List Char
  | ':' :: cs => cs
  | cs => cs

/-- The identifier in the reference begins with neither a blank nor a colon. -/
def IsPlain (reference : String) : Prop :=
  ∀ c ∈ (unmarked (Number.trimmed reference.toList)).head?, Text.isBlank c = false ∧ c ≠ ':'

instance (reference : String) : Decidable (IsPlain reference) :=
  inferInstanceAs (Decidable (∀ c ∈ (unmarked (Number.trimmed reference.toList)).head?,
    Text.isBlank c = false ∧ c ≠ ':'))

theorem unmarked_isSuffix (cs : List Char) : unmarked cs <:+ cs := by
  unfold unmarked
  split
  · exact List.suffix_cons _ _
  · exact List.suffix_refl _

theorem unmarked_eq_self_iff : unmarked cs = cs ↔ ∀ c ∈ cs.head?, c ≠ ':' := by
  unfold unmarked
  split
  · simp
  · rename_i hcolon
    refine ⟨fun _ c hc => ?_, fun _ => rfl⟩
    rintro rfl
    obtain ⟨rest, rfl⟩ := List.head?_eq_some_iff.mp hc
    exact hcolon rest rfl

theorem idOf?_eq (reference : String) :
    idOf? reference =
      if (unmarked (Number.trimmed reference.toList)).isEmpty then none
      else some (String.ofList (unmarked (Number.trimmed reference.toList))) := rfl

theorem idOf?_eq_some_iff : idOf? reference = some id ↔
    id ≠ "" ∧ unmarked (Number.trimmed reference.toList) = id.toList := by
  rw [idOf?_eq]
  generalize unmarked (Number.trimmed reference.toList) = cs
  have hid : String.ofList cs = id ↔ cs = id.toList := by
    constructor <;> rintro rfl <;> simp
  cases cs with
  | nil =>
    have hempty : [] = id.toList ↔ id = "" := by rw [eq_comm, String.toList_eq_nil_iff]
    simp [hempty]
  | cons c cs =>
    rw [if_neg (by simp), Option.some_inj, hid]
    refine ⟨fun heq => ⟨?_, heq⟩, fun h => h.2⟩
    rintro rfl
    cases heq

/-- An identifier that is taken for a reference is found in it again when nothing in front of it
can be taken away. -/
theorem idOf?_eq_self_iff (h : idOf? reference = some id) :
    idOf? id = some id ↔ IsPlain reference := by
  obtain ⟨hne, hid⟩ := idOf?_eq_some_iff.mp h
  rw [idOf?_eq_some_iff, IsPlain, hid]
  constructor
  · rintro ⟨-, hsame⟩
    have hlength := (unmarked_isSuffix (Number.trimmed id.toList)).length_le
    rw [hsame] at hlength
    have htrimmed := Number.trimmed_of_length_le hlength
    rw [htrimmed] at hsame
    intro c hc
    refine ⟨?_, unmarked_eq_self_iff.mp hsame c hc⟩
    rw [← htrimmed] at hc
    exact Number.head?_trimmed id.toList c hc
  · intro hplain
    have hsuffix : id.toList <:+ Number.trimmed reference.toList := hid ▸ unmarked_isSuffix _
    rw [Number.trimmed_of_isSuffix hsuffix fun c hc => (hplain c hc).1]
    exact ⟨hne, unmarked_eq_self_iff.mpr fun c hc => (hplain c hc).2⟩

theorem idOf?_idOf?_iff : (idOf? reference).bind idOf? = idOf? reference ↔ IsPlain reference := by
  cases h : idOf? reference with
  | some id => exact idOf?_eq_self_iff h
  | none =>
    -- where there is no identifier, nothing is left of the reference
    have hempty : unmarked (Number.trimmed reference.toList) = [] := by
      rw [idOf?_eq] at h
      simpa using h
    simp [IsPlain, hempty]

end FormulaSheet.LinkedTable
