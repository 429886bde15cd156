import FormulaSheet.Text.Classes

/-!
Scanners that take characters from the front of a text and may fail. A scanner whose first part is
known to succeed goes on with what that leaves.
-/

namespace FormulaSheet.Scanning

variable {ε α β : Type}

theorem bind_ok {p : StateT (List Char) (Except ε) α} {q : α → StateT (List Char) (Except ε) β}
    {cs rest : List Char} {a : α} (h : p cs = .ok (a, rest)) : (p >>= q) cs = q a rest := by
  simp [bind, StateT.bind, h, Except.bind]

theorem pure_ok (a : α) (cs : List Char) :
    (pure a : StateT (List Char) (Except ε) α) cs = .ok (a, cs) := rfl

theorem get_ok (cs : List Char) :
    (get : StateT (List Char) (Except ε) (List Char)) cs = .ok (cs, cs) := rfl

theorem set_ok (cs rest : List Char) :
    (set rest : StateT (List Char) (Except ε) PUnit) cs = .ok (⟨⟩, rest) := rfl

/-- Nothing is dropped from the front of a text that begins with another character, or is empty. -/
theorem dropWhile_eq_self {p : Char → Bool} {cs : List Char} (h : ∀ c ∈ cs.head?, p c = false) :
    cs.dropWhile p = cs := by
  cases cs with
  | nil => rfl
  | cons c cs => rw [List.dropWhile_cons_of_neg (by simp [h c (by simp)])]

variable {p : Char → Bool} {ds rest : List Char}

/-- A run of characters goes up to the first other one. -/
theorem takeWhile_append (hds : ∀ c ∈ ds, p c = true) (hrest : ∀ c ∈ rest.head?, p c = false) :
    (ds ++ rest).takeWhile p = ds := by
  rw [List.takeWhile_append_of_pos hds]
  cases rest with
  | nil => simp
  | cons c rest => simp [hrest c rfl]

theorem dropWhile_append (hds : ∀ c ∈ ds, p c = true) (hrest : ∀ c ∈ rest.head?, p c = false) :
    (ds ++ rest).dropWhile p = rest := by
  rw [List.dropWhile_append_of_pos hds, dropWhile_eq_self hrest]

/-- A run at the front of a text is no longer than the longest one. -/
theorem length_le_takeWhile {cs : List Char} (hds : ∀ c ∈ ds, p c = true) (h : ds <+: cs) :
    ds.length ≤ (cs.takeWhile p).length := by
  obtain ⟨rest, rfl⟩ := h
  rw [List.takeWhile_append_of_pos hds, List.length_append]
  exact Nat.le_add_right _ _

end FormulaSheet.Scanning
