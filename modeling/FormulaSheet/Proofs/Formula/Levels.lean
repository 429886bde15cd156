import FormulaSheet.Formula.Evaluation

/-!
Levels of formulas. A formula that never gets to the limit has one outcome however many levels
more there are: what formulas at the limit give can be anything (`evaluateOver`), also what they
give with more levels.
-/

namespace FormulaSheet.Formula

/-- Evaluates a text that is no formula, or an empty one, by itself. -/
def guarded (run : Evaluator) : Evaluator := fun c text =>
  if !isFormula text then .plain text
  else if (stripped text).isEmpty then .failed "empty formula" []
  else run c text

/-- Evaluates a text with so many levels of formulas left, where a formula below the last of them
gives what `limit` gives. -/
def evaluateOver (limit : Evaluator) : Nat → Evaluator
  | 0 => guarded limit
  | levels + 1 => guarded fun c text =>
    runScript (evaluateOver limit levels) c (Desugaring.toScript (stripped text))

theorem guarded_guarded (run : Evaluator) : guarded (guarded run) = guarded run := by
  funext c text
  unfold guarded
  by_cases hplain : (!isFormula text) = true
  · rw [if_pos hplain, if_pos hplain]
  · by_cases hempty : (stripped text).isEmpty = true
    · rw [if_neg hplain, if_pos hempty, if_neg hplain, if_pos hempty]
    · rw [if_neg hplain, if_neg hempty]

/-- The evaluation of a text stays within so many levels: formulas below the last of them make no
difference. -/
def IsWithin (levels : Nat) (c : Context) (text : String) : Prop :=
  ∀ limit, evaluateOver limit levels c text = evaluateAt levels c text

/-- At the limit evaluation fails. -/
theorem evaluateAt_eq (levels : Nat) : evaluateAt levels =
    evaluateOver (fun _ _ => .failed "formula recursion limit reached" []) levels := by
  induction levels with
  | zero => rfl
  | succ levels ih =>
    funext c text
    rw [evaluateAt, evaluateOver, ih]
    rfl

/-- Levels below the last ones are levels. -/
theorem evaluateOver_evaluateOver (limit : Evaluator) (more levels : Nat) :
    evaluateOver (evaluateOver limit more) levels = evaluateOver limit (more + levels) := by
  induction levels with
  | zero =>
    cases more with
    | zero => exact guarded_guarded limit
    | succ more => exact guarded_guarded _
  | succ levels ih =>
    rw [← Nat.add_assoc, evaluateOver, evaluateOver, ih]

theorem IsWithin.mono {levels levels' : Nat} {c : Context} {text : String}
    (h : IsWithin levels c text) (hle : levels ≤ levels') :
    evaluateAt levels' c text = evaluateAt levels c text := by
  obtain ⟨more, rfl⟩ : ∃ more, levels' = more + levels := ⟨levels' - levels, by omega⟩
  rw [evaluateAt_eq, ← evaluateOver_evaluateOver]
  exact h _

end FormulaSheet.Formula
