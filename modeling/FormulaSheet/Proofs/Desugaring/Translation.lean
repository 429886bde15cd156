import FormulaSheet.Desugaring.Formula
import FormulaSheet.Proofs.Desugaring.Groups
import FormulaSheet.Proofs.Desugaring.Words

/-!
Desugaring translates by structure: the script of a formula is what its expression looks like with
the operators of scripts. Of the text only blanks differ, namely those between a comma and a block.
-/

namespace FormulaSheet.Desugaring

/-- A text without its white space. -/
def unspaced (cs : List Char) : List Char := cs.filter fun c => !Text.isBlank c

theorem unspaced_append (a b : List Char) : unspaced (a ++ b) = unspaced a ++ unspaced b :=
  List.filter_append a b

theorem unspaced_enclosed (o d : Char) {a b : List Char} (h : unspaced a = unspaced b) :
    unspaced (o :: (a ++ [d])) = unspaced (o :: (b ++ [d])) := by
  have hcons : ∀ cs, unspaced (o :: cs) = unspaced [o] ++ unspaced cs := unspaced_append [o]
  rw [hcons, unspaced_append, h, ← unspaced_append, ← hcons]

section

variable {a a' b b' c c' : List Char}

theorem unspaced_not (ha : unspaced a = unspaced a') :
    unspaced (scriptStyle.not a) = unspaced (scriptStyle.not a') := by
  unfold scriptStyle
  simp only [unspaced_append, ha]

theorem unspaced_and (ha : unspaced a = unspaced a') (hb : unspaced b = unspaced b') :
    unspaced (scriptStyle.and a b) = unspaced (scriptStyle.and a' b') := by
  unfold scriptStyle
  simp only [unspaced_append, ha, hb]

theorem unspaced_or (ha : unspaced a = unspaced a') (hb : unspaced b = unspaced b') :
    unspaced (scriptStyle.or a b) = unspaced (scriptStyle.or a' b') := by
  unfold scriptStyle
  simp only [unspaced_append, ha, hb]

theorem unspaced_cond (hc : unspaced c = unspaced c') (ha : unspaced a = unspaced a')
    (hb : unspaced b = unspaced b') :
    unspaced (scriptStyle.cond c a b) = unspaced (scriptStyle.cond c' a' b') := by
  unfold scriptStyle
  simp only [unspaced_append, hc, ha, hb]

end

theorem unspaced_within {e : Expression} (h : unspaced (e.write tightStyle) =
    unspaced (e.write scriptStyle)) (level : Nat) :
    unspaced (e.within level (e.write tightStyle)) =
      unspaced (e.within level (e.write scriptStyle)) := by
  unfold Expression.within
  split
  · exact unspaced_enclosed '(' ')' h
  · exact h

theorem unspaced_comma (e : Expression) :
    unspaced (tightStyle.comma e) = unspaced (scriptStyle.comma e) := by
  change unspaced (if e.level < 3 then [','] else [',', ' ']) = unspaced ", ".toList
  split
  · rfl
  · rfl

theorem unspaced_writeRest {es : List Expression} (hes : ∀ e ∈ es,
      unspaced (e.write tightStyle) = unspaced (e.write scriptStyle)) :
    unspaced (writeRest tightStyle es) = unspaced (writeRest scriptStyle es) := by
  induction es with
  | nil => rfl
  | cons e es ih =>
    obtain ⟨he, hes⟩ := List.forall_mem_cons.mp hes
    simp only [writeRest, unspaced_append, unspaced_comma, he, ih hes]

theorem unspaced_writeItems {es : List Expression} (hes : ∀ e ∈ es,
      unspaced (e.write tightStyle) = unspaced (e.write scriptStyle)) :
    unspaced (writeItems tightStyle es) = unspaced (writeItems scriptStyle es) := by
  cases es with
  | nil => rfl
  | cons e es =>
    obtain ⟨he, hes⟩ := List.forall_mem_cons.mp hes
    simp only [writeItems, unspaced_append, he, unspaced_writeRest hes]

/-- The tight style differs in blanks only. -/
theorem unspaced_write (e : Expression) :
    unspaced (e.write tightStyle) = unspaced (e.write scriptStyle) := by
  induction e using Expression.induct with
  | atom a => rfl
  | not e ih => exact unspaced_not (unspaced_within ih 3)
  | and a b iha ihb => exact unspaced_and (unspaced_within iha 2) (unspaced_within ihb 3)
  | or a b iha ihb => exact unspaced_or (unspaced_within iha 1) (unspaced_within ihb 2)
  | cond c a b ihc iha ihb => exact unspaced_cond (unspaced_within ihc 1) iha ihb
  | call f args ihf ihargs =>
    rw [Expression.write, Expression.write, unspaced_append, unspaced_append,
      unspaced_within ihf, bracketed, bracketed, unspaced_enclosed '(' ')' (unspaced_writeItems ihargs)]
  | array items ih => exact unspaced_enclosed '[' ']' (unspaced_writeItems ih)

/-- The script of a formula, character by character. -/
theorem toScript_within (e : Expression) (level : Nat) :
    toScript (String.ofList (e.within level (e.write formulaStyle))) =
      String.ofList (e.within level (e.write tightStyle)) := by
  have hplain : IsPlain (e.within level (e.write formulaStyle)) := (isPlain_write e).within level
  rw [toScript, String.toList_ofList, hplain.mask]
  simp only [hplain.desugarWords, desugarNegations_within, desugarConditionals_within]
  rfl

theorem toScript_write (e : Expression) :
    toScript (String.ofList (e.write formulaStyle)) = String.ofList (e.write tightStyle) :=
  toScript_within e 0

/-- Every expression, written as formulas are, is desugared into what it looks like with the
operators of scripts: exactly, but that a block after a comma follows it without a blank. -/
theorem toScript_structural (e : Expression) :
    toScript (String.ofList (e.write formulaStyle)) = String.ofList (e.write tightStyle) ∧
      unspaced (toScript (String.ofList (e.write formulaStyle))).toList =
        unspaced (e.write scriptStyle) := by
  have hscript := toScript_write e
  refine ⟨hscript, ?_⟩
  rw [hscript, String.toList_ofList, unspaced_write]

end FormulaSheet.Desugaring
