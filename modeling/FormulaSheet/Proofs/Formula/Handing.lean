import FormulaSheet.Formula.CellValue
import FormulaSheet.Proofs.Number.Display
import FormulaSheet.Proofs.Number.Whole

/-!
Values that pass through a script. A formula that reads a property gets the value as scripts see it,
and what it gives back becomes a value again. On the way whole numbers become integers and printed
forms become texts, but nothing is shown differently, and the value that comes out equals the one
that went in unless it holds a printed form or not-a-number (`handing_keeps_value`).
-/

namespace FormulaSheet.CellValue

mutual

/-- Whether there is neither a printed form nor not-a-number in the value, at any depth. -/
def isLasting : CellValue → Bool
  | .number x => !x.isNaN
  | .list items => areLasting items
  | .other _ => false
  | _ => true

def areLasting : List CellValue → Bool
  | [] => true
  | v :: vs => v.isLasting && areLasting vs

end

/-! ## Numbers -/

variable {x y : Float}

/-- Equal numbers are shown alike: zero has one text whatever its sign. -/
theorem display_number_congr (h : (x == y) = true) :
    (number x).display = (number y).display := by
  obtain ⟨-, rfl | ⟨hx, hy⟩⟩ := Number.beq_iff.mp h
  · rfl
  · rw [display, display, if_pos (Number.isFinite_of_isZero hx),
      if_pos (Number.isFinite_of_isZero hy), Number.display_congr h]

/-- A number comes back as itself, or as an equal whole number. -/
theorem ofScript_numberToScript (cells : Array Script.Value) (x : Float) :
    ∃ y, ofScript cells (numberToScript x) = .number y ∧ (y = x ∨ (y == x) = true) := by
  unfold numberToScript
  split
  · rename_i b hb
    split
    · rename_i hwhole
      obtain ⟨hwhole, hsmall⟩ := (Bool.and_eq_true _ _).mp hwhole
      exact ⟨_, rfl, .inr (Number.ofInt_truncated hb hwhole (of_decide_eq_true hsmall))⟩
    · exact ⟨x, rfl, .inl rfl⟩
  · exact ⟨x, rfl, .inl rfl⟩

theorem display_numberToScript (cells : Array Script.Value) (x : Float) :
    (ofScript cells (numberToScript x)).display = (number x).display := by
  obtain ⟨y, hy, rfl | heq⟩ := ofScript_numberToScript cells x
  · rw [hy]
  · rw [hy, display_number_congr heq]

theorem equal_numberToScript (cells : Array Script.Value) (x : Float) :
    (ofScript cells (numberToScript x)).equal (.number x) = !x.isNaN := by
  obtain ⟨y, hy, rfl | heq⟩ := ofScript_numberToScript cells x
  · rw [hy, equal, Bool.eq_iff_iff, Number.beq_iff]
    simp
  · have hnan : x.isNaN = false := (Number.beq_iff.mp (Number.beq_symm heq)).1
    rw [hy, equal, heq, hnan]
    rfl

/-! ## Values at any depth -/

variable (cells : Array Script.Value)

mutual

theorem display_ofScript (v : CellValue) : (ofScript cells v.toScript).display = v.display := by
  cases v with
  | number x => exact display_numberToScript cells x
  | list items => simp only [toScript, ofScript, display, displays_ofScripts items]
  | null | bool | text | date | button | other => rfl

theorem displays_ofScripts (vs : List CellValue) :
    displays (ofScripts cells (toScripts vs)) = displays vs := by
  cases vs with
  | nil => rfl
  | cons v vs => simp only [toScripts, ofScripts, displays, display_ofScript v,
      displays_ofScripts vs]

end

mutual

/-- What comes back is what was handed out, unless there is something in it that does not last: a
printed form comes back as a text, and not-a-number does not even equal itself. -/
theorem equal_ofScript (v : CellValue) :
    (ofScript cells v.toScript).equal v = v.isLasting := by
  cases v with
  | number x => exact equal_numberToScript cells x
  | list items => simp only [toScript, ofScript, equal, isLasting, equalAll_ofScripts items]
  | bool | text | date | button => simp [toScript, ofScript, equal, isLasting, closed]
  | null | other => rfl

theorem equalAll_ofScripts (vs : List CellValue) :
    equalAll (ofScripts cells (toScripts vs)) vs = areLasting vs := by
  cases vs with
  | nil => rfl
  | cons v vs => simp only [toScripts, ofScripts, equalAll, areLasting, equal_ofScript v,
      equalAll_ofScripts vs]

end

/-- A value that is handed to a script and comes back is shown as before, and it equals what it was
just when there is neither a printed form nor not-a-number in it. -/
theorem handing_keeps_value (cells : Array Script.Value) (v : CellValue) :
    (ofScript cells v.toScript).display = v.display ∧
      (ofScript cells v.toScript == v) = v.isLasting :=
  ⟨display_ofScript cells v, equal_ofScript cells v⟩

/-- Minus zero comes back as zero, which equals it, and a printed form as a text, which does not. -/
example : let v : CellValue := .list [.number (-0.0), .text "a", .other "#\x7b\x7d"]
    (ofScript #[] v.toScript).display = "0,a,#\x7b\x7d" ∧
      (ofScript #[] v.toScript == v) = false := by
  decide +kernel

end FormulaSheet.CellValue
