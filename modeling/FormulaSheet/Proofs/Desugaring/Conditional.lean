import FormulaSheet.Proofs.Desugaring.Logic

/-!
Conditionals outside groups: the first question mark ends the condition, and the colon that belongs
to it is found behind any conditionals in between, since each of them has one colon.
-/

namespace FormulaSheet.Desugaring

/-! ## The two marks -/

/-- The scan for a colon takes a text as part of what stands before it, and the number of
conditionals open before the text and after it. -/
def PassesColon (cs : List Char) (nested nested' : Nat) : Prop := ∀ before rest, ∃ before',
  splitColon? 0 nested before (cs ++ rest) =
    (splitColon? 0 nested' before' rest).map fun (a, b) => (cs ++ a, b)

theorem PassesColon.append {a b : List Char} {k l m : Nat} (ha : PassesColon a k l)
    (hb : PassesColon b l m) : PassesColon (a ++ b) k m := by
  intro before rest
  obtain ⟨middle, hmiddle⟩ := ha before (b ++ rest)
  obtain ⟨after, hafter⟩ := hb middle rest
  refine ⟨after, ?_⟩
  rw [List.append_assoc, hmiddle, hafter]
  simp [Function.comp_def]

theorem Grouped.passesColon {cs : List Char} (h : Grouped (isOuterChar 1) cs) (nested : Nat) :
    PassesColon cs nested nested :=
  h.splitColon? (fun _ hc => ⟨ne_of_isOuterChar hc rfl, ne_of_isOuterChar hc rfl⟩) nested

/-- A question mark between blanks opens a conditional, and a colon closes one. -/
theorem passesColon_mark {mark : Char} {nested nested' : Nat}
    (h : mark = '?' ∧ nested' = nested + 1 ∨ mark = ':' ∧ nested = nested' + 1) :
    PassesColon [' ', mark, ' '] nested nested' := by
  intro before rest
  refine ⟨some ' ', ?_⟩
  have hscan : splitColon? 0 nested before (' ' :: mark :: ' ' :: rest) =
      (((splitColon? 0 nested' (some ' ') rest).map fun (a, b) => (' ' :: a, b)).map
        fun (a, b) => (mark :: a, b)).map fun (a, b) => (' ' :: a, b) := by
    rcases h with ⟨rfl, rfl⟩ | ⟨rfl, rfl⟩
    · rfl
    · rfl
  refine hscan.trans ?_
  simp [Function.comp_def]

/-- Every conditional in an expression has its colon. -/
theorem passesColon_outer (e : Expression) (nested : Nat) :
    PassesColon e.outer nested nested := by
  induction e using Expression.induct generalizing nested with
  | cond c a b _ iha ihb =>
    have hcondition := (grouped_operand (grouped_outer c) (Nat.le_refl 1)).passesColon nested
    have hopens : PassesColon " ? ".toList nested (nested + 1) :=
      passesColon_mark (.inl ⟨rfl, rfl⟩)
    have hcloses : PassesColon " : ".toList (nested + 1) nested :=
      passesColon_mark (.inr ⟨rfl, rfl⟩)
    exact hcondition.append
      (hopens.append ((iha (nested + 1)).append (hcloses.append (ihb nested))))
  | _ =>
    refine (grouped_outer_of_le ?_).passesColon nested
    simp [Expression.level]

theorem splitColon?_outer (e : Expression) (rest : List Char) :
    splitColon? 0 0 (some '?') (' ' :: (e.outer ++ ' ' :: ':' :: ' ' :: rest)) =
      some (' ' :: (e.outer ++ [' ']), ' ' :: rest) := by
  have hpass := (grouped_spaces rfl 1).passesColon 0 |>.append (passesColon_outer e 0)
  obtain ⟨before, hbefore⟩ := hpass (some '?') (' ' :: ':' :: ' ' :: rest)
  have hcolon : splitColon? 0 0 before (' ' :: ':' :: ' ' :: rest) =
      some ([' '], ' ' :: rest) := rfl
  rw [hcolon] at hbefore
  exact hbefore

theorem splitQuestion?_condition {cs : List Char} (h : Grouped (isPartChar 1) cs)
    (rest : List Char) : splitQuestion? 0 none (cs ++ ' ' :: '?' :: ' ' :: rest) =
      some (cs ++ [' '], ' ' :: rest) := by
  obtain ⟨before, hbefore⟩ := h.splitQuestion? (fun _ hc => ne_of_isPartChar hc rfl) none
    (' ' :: '?' :: ' ' :: rest)
  have hquestion : splitQuestion? 0 before (' ' :: '?' :: ' ' :: rest) =
      some ([' '], ' ' :: rest) := rfl
  rw [hquestion] at hbefore
  exact hbefore

theorem splitQuestion?_eq_none {cs : List Char} (h : Grouped (isPartChar 1) cs) :
    splitQuestion? 0 none cs = none := by
  obtain ⟨before, hbefore⟩ := h.splitQuestion? (fun _ hc => ne_of_isPartChar hc rfl) none []
  rw [List.append_nil] at hbefore
  exact hbefore

/-! ## Parts -/

theorem desugarPart_plain {fuel : Nat} {cs : List Char} (h : Grouped (isPartChar 1) cs) :
    desugarPart (fuel + 1) cs = desugarLogic cs := by
  rw [desugarPart, splitQuestion?_eq_none h]

theorem desugarPart_conditional {fuel : Nat} {cs rest onTrue onFalse : List Char}
    (h : IsHeadless cs) (m : Nat)
    (hcolon : splitColon? 0 0 (some '?') (' ' :: rest) = some (onTrue, onFalse)) :
    desugarPart (fuel + 1) (spaces m ++ cs ++ ' ' :: '?' :: ' ' :: rest) =
      ifBlock (desugarLogic cs) (trim (desugarPart fuel onTrue)) (trim (desugarPart fuel onFalse)) ++
        trailingBlanks onFalse := by
  have hhead := h.splitHead m 1
  have htrim := trim_spaces h.layout.trimmed m 1
  rw [← List.append_assoc] at hhead htrim
  rw [desugarPart, splitQuestion?_condition ((grouped_spaces rfl m).append h.chars)]
  simp only [hcolon]
  rw [show [' '] = spaces 1 from rfl, hhead]
  simp only [htrim]
  rfl

/-- A branch of a conditional. -/
theorem trim_branch {e : Expression} {branch : List Char} {m n : Nat}
    (h : branch = if e.level < 3 then e.write tightStyle ++ spaces n
      else spaces m ++ (e.write tightStyle ++ spaces n)) : trim branch = e.write tightStyle := by
  have htrimmed := (isLaidOut_write isSound_tightStyle e).trimmed
  rw [h]
  split
  · exact trim_spaces htrimmed 0 n
  · exact trim_spaces htrimmed m n

/-- A part becomes the block of its expression, which keeps the blanks behind it but not those
before it; a part without logic and conditionals outside its groups stays as it is. A key before
the expression goes into the block, since it stands before the first operator. -/
theorem IsKey.desugarPart_outer {key : List Char} (hkey : IsKey key) (e : Expression) (m n : Nat)
    {fuel : Nat} (hfuel : (spaces m ++ (key ++ e.outer ++ spaces n)).length < fuel) :
    desugarPart fuel (spaces m ++ (key ++ e.outer ++ spaces n)) =
      if e.level < 3 then e.writeKeyed tightStyle key ++ spaces n
      else spaces m ++ (e.writeKeyed tightStyle key ++ spaces n) := by
  obtain ⟨fuel, rfl⟩ : ∃ k, fuel = k + 1 := ⟨fuel - 1, by omega⟩
  induction e using Expression.induct generalizing key fuel m n with
  | cond c a b _ iha ihb =>
    have htext : spaces m ++ (key ++ (Expression.cond c a b).outer ++ spaces n) =
        spaces m ++ (key ++ c.operand 1 c.outer) ++ ' ' :: '?' :: ' ' ::
          (a.outer ++ ' ' :: ':' :: ' ' :: (b.outer ++ spaces n)) := by
      simp [Expression.outer, formulaStyle]
    rw [htext] at hfuel ⊢
    simp only [List.length_append, List.length_cons, List.length_replicate] at hfuel
    obtain ⟨fuel, rfl⟩ : ∃ k, fuel = k + 1 := ⟨fuel - 1, by omega⟩
    -- no key stands before a branch
    have ha := iha isKey_nil 1 1 fuel (by
      simp only [List.length_append, List.length_replicate, List.length_nil]; omega)
    have hb := ihb isKey_nil 1 n fuel (by
      simp only [List.length_append, List.length_replicate, List.length_nil]; omega)
    rw [Expression.writeKeyed_nil, List.nil_append] at ha hb
    have hblanks := trailingBlanks_spaces (isLaidOut_outer b).trimmed 1 n
    replace ha := trim_branch ha
    replace hb := trim_branch hb
    rw [desugarPart_conditional (hkey.isHeadless_operand c) m (splitColon?_outer a _),
      hkey.desugarLogic_operand]
    simp only [spaces, List.replicate_one, List.singleton_append] at ha hb hblanks
    rw [ha, hb, hblanks]
    rfl
  | _ =>
    rw [desugarPart_plain ((grouped_spaces rfl m).append
      ((hkey.grouped_keyed (by decide) ?_).append (grouped_spaces rfl n))),
      hkey.desugarLogic_outer ?_]
    all_goals simp [Expression.level]

theorem desugarPart_outer (e : Expression) (m n : Nat) {fuel : Nat}
    (hfuel : (spaces m ++ (e.outer ++ spaces n)).length < fuel) :
    desugarPart fuel (spaces m ++ (e.outer ++ spaces n)) =
      if e.level < 3 then e.write tightStyle ++ spaces n
      else spaces m ++ (e.write tightStyle ++ spaces n) := by
  have hpart := isKey_nil.desugarPart_outer e m n hfuel
  rwa [Expression.writeKeyed_nil, List.nil_append] at hpart

/-- A part without logic and conditionals outside its groups stays as it is. -/
theorem desugarPart_single {fuel : Nat} {cs : List Char} (h : Grouped (isPartChar 3) cs)
    (hlayout : IsLaidOut cs) : desugarPart (fuel + 1) cs = cs := by
  rw [desugarPart_plain (isHeadless_single h hlayout).chars, desugarLogic_single h hlayout]

end FormulaSheet.Desugaring
