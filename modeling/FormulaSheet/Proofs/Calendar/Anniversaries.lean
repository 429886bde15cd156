import FormulaSheet.Calendar.Date
import Mathlib.Data.Prod.Lex

/-!
Ages. From one day to a later one as many whole years are completed as the first day has
anniversaries up to the second (`yearsBetween_anniversaries`). Days are compared by year, month and
day, and so the 29th of February has its anniversary of a common year between the 28th and the first
of March.
-/

namespace FormulaSheet.Date

/-- The day some years later, as year, month and day; it need not be in the calendar. -/
def anniversary (d : Date) (n : Int) : Int ×ₗ Nat ×ₗ Nat :=
  toLex (d.year + n, toLex (d.month, d.day))

/-- Days in their order. -/
instance : Preorder Date where
  le a b := a.anniversary 0 ≤ b.anniversary 0
  le_refl a := le_refl (a.anniversary 0)
  le_trans _ _ _ := le_trans

variable {a b c : Date} {m n : Int}

theorem le_def : a ≤ b ↔ a.anniversary 0 ≤ b.anniversary 0 := Iff.rfl

/-! ## Days as numbers -/

/-- The place of a day among those of its year, with 32 for each month. -/
def place (d : Date) : Int := 32 * d.month + d.day

theorem place_bounds (d : Date) : 0 ≤ d.place ∧ d.place < 512 := by
  obtain ⟨-, hmonth, -, hday⟩ := d.isDay
  have hlast := Calendar.daysInMonth_le d.year d.month
  unfold place
  omega

theorem place_lt_iff :
    a.place < b.place ↔ a.month < b.month ∨ a.month = b.month ∧ a.day < b.day := by
  obtain ⟨-, -, -, haday⟩ := a.isDay
  obtain ⟨-, -, -, hbday⟩ := b.isDay
  have halast := Calendar.daysInMonth_le a.year a.month
  have hblast := Calendar.daysInMonth_le b.year b.month
  unfold place
  omega

theorem anniversaryBefore_iff : a.anniversaryBefore b = true ↔ a.place < b.place := by
  rw [place_lt_iff, anniversaryBefore, decide_eq_true_iff]

theorem anniversary_lt_iff : a.anniversary m < b.anniversary n ↔
    512 * (a.year + m) + a.place < 512 * (b.year + n) + b.place := by
  have ha := a.place_bounds
  have hb := b.place_bounds
  simp only [anniversary, Prod.Lex.toLex_lt_toLex, ← place_lt_iff]
  omega

theorem anniversary_le_iff : a.anniversary m ≤ b.anniversary n ↔
    512 * (a.year + m) + a.place ≤ 512 * (b.year + n) + b.place := by
  rw [← not_lt, anniversary_lt_iff, not_lt]

/-! ## Completed years -/

/-- Years are counted from the earlier to the later day. -/
theorem yearsBetween_eq (a b : Date) : a.yearsBetween b =
    if a ≤ b then (512 * (b.year - a.year) + (b.place - a.place)) / 512
    else -((512 * (a.year - b.year) + (a.place - b.place)) / 512) := by
  have ha := a.place_bounds
  have hb := b.place_bounds
  simp only [yearsBetween, anniversaryBefore_iff, le_def, anniversary_le_iff]
  split_ifs <;> omega

theorem yearsBetween_swap (a b : Date) : b.yearsBetween a = -a.yearsBetween b := by
  have ha := a.place_bounds
  have hb := b.place_bounds
  simp only [yearsBetween_eq, le_def, anniversary_le_iff]
  split_ifs <;> omega

theorem completed_iff (h : a ≤ b) : (0 ≤ n ∧ a.anniversary n ≤ b.anniversary 0 ∧
    b.anniversary 0 < a.anniversary (n + 1)) ↔ n = a.yearsBetween b := by
  have ha := a.place_bounds
  have hb := b.place_bounds
  rw [yearsBetween_eq, if_pos h]
  rw [le_def, anniversary_le_iff] at h
  rw [anniversary_le_iff, anniversary_lt_iff]
  omega

theorem yearsBetween_monotone (a : Date) (hbc : b ≤ c) : a.yearsBetween b ≤ a.yearsBetween c := by
  rw [le_def, anniversary_le_iff] at hbc
  simp only [yearsBetween_eq, le_def, anniversary_le_iff]
  split_ifs <;> omega

/-- From one day to a later one the completed years are those whose anniversaries are not after it,
the next one being after it; counted backward they are negative. They grow with the second day and
shrink with the first one, whichever comes earlier. -/
theorem yearsBetween_anniversaries :
    (∀ a b : Date, a ≤ b →
      (∀ n : Int, (0 ≤ n ∧ a.anniversary n ≤ b.anniversary 0 ∧
        b.anniversary 0 < a.anniversary (n + 1)) ↔ n = a.yearsBetween b) ∧
      b.yearsBetween a = -a.yearsBetween b) ∧
    (∀ a b c : Date, b ≤ c → a.yearsBetween b ≤ a.yearsBetween c) ∧
    ∀ a b c : Date, a ≤ b → b.yearsBetween c ≤ a.yearsBetween c := by
  refine ⟨fun a b hab => ⟨fun n => completed_iff hab, yearsBetween_swap a b⟩,
    fun a b c => yearsBetween_monotone a, ?_⟩
  intro a b c hab
  have hswap := yearsBetween_monotone c hab
  rw [yearsBetween_swap a c, yearsBetween_swap b c] at hswap
  exact Int.le_of_neg_le_neg hswap

/-- On the 28th of February three years after a leap day two years are completed, and on the next
leap day four. -/
theorem yearsBetween_anniversaries_leap_day :
    let a : Date := ⟨2024, 2, 29, by decide⟩
    let b : Date := ⟨2027, 2, 28, by decide⟩
    let c : Date := ⟨2028, 2, 29, by decide⟩
    a ≤ b ∧ b ≤ c ∧ 2 = a.yearsBetween b ∧ b.yearsBetween a = -2 ∧
      a.yearsBetween b ≤ a.yearsBetween c ∧ b.yearsBetween c ≤ a.yearsBetween c := by
  intro a b c
  have hab : a ≤ b := by
    rw [le_def, anniversary_le_iff]
    decide
  have hbc : b ≤ c := by
    rw [le_def, anniversary_le_iff]
    decide
  obtain ⟨hyears, hlater, hearlier⟩ := yearsBetween_anniversaries
  obtain ⟨hcompleted, hswap⟩ := hyears a b hab
  have htwo : 2 = a.yearsBetween b := by
    rw [← hcompleted 2, anniversary_le_iff, anniversary_lt_iff]
    decide
  exact ⟨hab, hbc, htwo, hswap.trans (congrArg Neg.neg htwo.symm), hlater a b c hbc,
    hearlier a b c hab⟩

end FormulaSheet.Date
