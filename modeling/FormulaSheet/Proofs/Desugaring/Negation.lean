import FormulaSheet.Desugaring.Negation
import FormulaSheet.Proofs.Desugaring.Layout

/-!
Desugaring the negations of a formula: the scan for an operand takes the negated expression and
nothing of what follows, so that exactly the negations of the expression are rewritten.
-/

namespace FormulaSheet.Desugaring

/-- Formulas whose negations are written as in scripts. -/
def negatedStyle : Style := { formulaStyle with not := scriptStyle.not }

theorem isSound_negatedStyle : negatedStyle.IsSound where
  not ha := isLaidOut_not ha.balanced
  and := isSound_formulaStyle.and
  or := isSound_formulaStyle.or
  cond := isSound_formulaStyle.cond
  comma := isSound_formulaStyle.comma

/-! ## Operands -/

/-- What follows an expression: nothing, or a character at which a path ends. -/
def EndsPath (cs : List Char) : Prop :=
  ∀ c ∈ cs.head?, c = ' ' ∨ c = ',' ∨ c = ')' ∨ c = ']' ∨ c = '\x7d'

theorem EndsPath.pathLength {rest : List Char} (h : EndsPath rest) (fuel : Nat) :
    pathLength fuel rest = 0 := by
  cases fuel with
  | zero => rfl
  | succ fuel =>
    cases rest with
    | nil => rfl
    | cons c rest => rcases h c rfl with rfl | rfl | rfl | rfl | rfl <;> rfl

theorem pathLength_identifierChar {c : Char} (h : isIdentifierChar c = true) (fuel : Nat)
    (cs : List Char) : pathLength (fuel + 1) (c :: cs) = 1 + pathLength fuel cs := by
  have hopener : isOpener c = false := by
    have hround : c ≠ '(' := ne_of_isIdentifierChar h (by decide)
    have hsquare : c ≠ '[' := ne_of_isIdentifierChar h (by decide)
    have hcurly : c ≠ '\x7b' := ne_of_isIdentifierChar h (by decide)
    simp [isOpener, hround, hsquare, hcurly]
  rw [pathLength.eq_def]
  simp [hopener, isNameChar_of_isIdentifierChar h]

theorem pathLength_group {o d : Char} {inside : List Char} (hod : closer? o = some d)
    (h : Balanced inside) (fuel : Nat) (cs : List Char) :
    pathLength (fuel + 1) (o :: (inside ++ d :: cs)) = inside.length + 2 + pathLength fuel cs := by
  rw [pathLength.eq_def]
  simp [isOpener_of_closer? hod, group?_append hod h]

theorem Grouped.pathLength {cs : List Char} (h : Grouped isIdentifierChar cs) {rest : List Char}
    (hrest : EndsPath rest) {fuel : Nat} (hfuel : cs.length ≤ fuel) :
    pathLength fuel (cs ++ rest) = cs.length := by
  generalize hp : isIdentifierChar = p at h
  induction h generalizing fuel with
  | nil => exact hrest.pathLength fuel
  | @plain _ c cs _ _ hc _ ih =>
    subst hp
    obtain ⟨fuel, rfl⟩ : ∃ n, fuel = n + 1 := ⟨fuel - 1, by grind⟩
    rw [List.cons_append, pathLength_identifierChar hc, ih (by simpa using hfuel) rfl,
      List.length_cons, Nat.add_comm]
  | @group _ o d inside cs hod hin _ _ ih =>
    simp only [List.length_cons, List.length_append] at hfuel
    obtain ⟨fuel, rfl⟩ : ∃ n, fuel = n + 1 := ⟨fuel - 1, by omega⟩
    rw [List.cons_append, List.append_assoc, List.cons_append, pathLength_group hod hin,
      ih (by omega) hp]
    simp only [List.length_cons, List.length_append]
    omega

theorem Grouped.operandLength {cs : List Char} (h : Grouped isIdentifierChar cs) (hne : cs ≠ [])
    {rest : List Char} (hrest : EndsPath rest) : operandLength (cs ++ rest) = cs.length := by
  have hpath : Desugaring.pathLength (cs ++ rest).length (cs ++ rest) = cs.length :=
    h.pathLength hrest (by simp)
  have hhead : ∀ c ∈ cs.head?, Text.isBlank c = false ∧ c ≠ '!' := by
    cases h with
    | nil => simp
    | plain _ _ hc =>
      rintro c ⟨⟩
      exact ⟨not_isBlank_of_isIdentifierChar hc, ne_of_isIdentifierChar hc (by decide)⟩
    | group hod =>
      rintro c ⟨⟩
      rcases closer?_eq_some_iff.mp hod with ⟨rfl, -⟩ | ⟨rfl, -⟩ | ⟨rfl, -⟩ <;> decide
  obtain ⟨c, cs, rfl⟩ := List.exists_cons_of_ne_nil hne
  obtain ⟨hblank, hnot⟩ := hhead c rfl
  rw [List.cons_append, Desugaring.operandLength, if_neg (by simp [hblank]), if_neg hnot]
  exact hpath

theorem operandLength_within {e : Expression}
    (h : 3 ≤ e.level → ∀ rest, EndsPath rest →
      operandLength (e.write formulaStyle ++ rest) = (e.write formulaStyle).length)
    {rest : List Char} (hrest : EndsPath rest) :
    operandLength (e.within 3 (e.write formulaStyle) ++ rest) =
      (e.within 3 (e.write formulaStyle)).length := by
  rcases exists_within e 3 (e.write formulaStyle) with ⟨-, hw⟩ | ⟨hlevel, hw⟩
  · rw [hw]
    have hgrouped : Grouped isIdentifierChar (bracketed (e.write formulaStyle)) :=
      .bracketed (isLaidOut_write isSound_formulaStyle e).balanced rfl
    exact hgrouped.operandLength (by simp [bracketed]) hrest
  · rw [hw]
    exact h hlevel rest hrest

/-- The operand after a negation is the negated expression. -/
theorem operandLength_write {e : Expression} (h : 3 ≤ e.level) {rest : List Char}
    (hrest : EndsPath rest) :
    operandLength (e.write formulaStyle ++ rest) = (e.write formulaStyle).length := by
  induction e using Expression.induct generalizing rest with
  | not e ih =>
    change operandLength ('!' :: (e.within 3 (e.write formulaStyle) ++ rest)) = _
    rw [operandLength, if_neg (by decide), if_pos rfl,
      operandLength_within (fun hlevel rest hrest => ih hlevel hrest) hrest, Nat.add_comm]
    rfl
  | and => simp [Expression.level] at h
  | or => simp [Expression.level] at h
  | cond => simp [Expression.level] at h
  | _ =>
    refine (grouped_write isSound_formulaStyle ?_).operandLength ?_ hrest
    · exact Nat.le_refl 4
    · exact (isLaidOut_write isSound_formulaStyle _).trimmed.ne_nil

/-! ## Negations -/

theorem looksAhead_negationRule (inner : List Char → List Char) :
    LooksAhead (negationRule inner) := fun _ _ _ => rfl

theorem Opens.isNegated {cs : List Char} (h : Opens cs) : isNegated cs = true := by
  unfold Desugaring.isNegated
  split
  · obtain ⟨c, hc, hopens⟩ := h.head
    cases hc
    exact absurd hopens (by decide)
  · rename_i rest
    have hafter : Desugaring.after? "in".toList ('i' :: 'n' :: rest) = some rest := rfl
    obtain ⟨c, hc, hchar⟩ := h.after? (by decide) hafter
    simp [Option.mem_def.mp hc, isNameChar_of_isIdentifierChar hchar]
  · rfl

theorem desugarNegations_cons {fuel : Nat} {c : Char} (h : c ≠ '!') (cs : List Char) :
    desugarNegations (fuel + 1) (c :: cs) = c :: desugarNegations (fuel + 1) cs := by
  refine (looksAhead_negationRule _).replaceAll_of_none ?_
  unfold negationRule
  split
  · rename_i heq
    exact absurd (List.cons.inj heq).1 h
  · rfl

theorem desugarNegations_append {fuel : Nat} {a : List Char} (h : '!' ∉ a) (cs : List Char) :
    desugarNegations (fuel + 1) (a ++ cs) = a ++ desugarNegations (fuel + 1) cs := by
  induction a with
  | nil => rfl
  | cons c a ih =>
    rw [List.cons_append, desugarNegations_cons fun hc => h (by simp [hc]),
      ih (List.not_mem_of_not_mem_cons h), List.cons_append]

theorem desugarNegations_eq_self {fuel : Nat} {cs : List Char} (h : '!' ∉ cs) :
    desugarNegations (fuel + 1) cs = cs := by
  have happend : desugarNegations (fuel + 1) (cs ++ []) = cs ++ [] := desugarNegations_append h []
  rwa [List.append_nil] at happend

theorem desugarNegations_not {fuel : Nat} {operand rest : List Char} (h : IsLaidOut operand)
    (hrest : EndsPath rest) (hlength : operandLength (operand ++ rest) = operand.length) :
    desugarNegations (fuel + 1) ('!' :: (operand ++ rest)) =
      scriptStyle.not (desugarNegations fuel operand) ++ desugarNegations (fuel + 1) rest := by
  have hopens : Opens (operand ++ rest) := h.opens.append fun c hc => by
    rcases hrest c hc with rfl | rfl | rfl | rfl | rfl <;> decide
  have htrim : trim ([] ++ (operand ++ [])) = operand := trim_eq h.trimmed (by simp) (by simp)
  have hrule : negationRule (desugarNegations fuel) none ('!' :: (operand ++ rest)) =
      some (scriptStyle.not (desugarNegations fuel operand), operand.length + 1) := by
    rw [List.nil_append, List.append_nil] at htrim
    have hempty : operand.isEmpty = false := by simp [h.trimmed.ne_nil]
    simp only [negationRule, hopens.isNegated, hlength, List.take_left, htrim, hempty]
    rfl
  rw [desugarNegations, (looksAhead_negationRule _).replaceAll_of_some hrule, List.drop_left]
  rfl

/-- Negations are rewritten where a text stands, whatever comes next; behind an operator the next
text must not go on with a path. -/
def IsNegatedAs (text value : List Char) (level : Nat) : Prop := ∀ fuel rest,
  text.length ≤ fuel → 4 ≤ level ∨ EndsPath rest →
    desugarNegations (fuel + 1) (text ++ rest) = value ++ desugarNegations (fuel + 1) rest

theorem IsNegatedAs.enclosed {text value : List Char} {level : Nat} {o d : Char}
    (h : IsNegatedAs text value level) (ho : o = '(' ∨ o = '[') (hd : d = ')' ∨ d = ']') :
    IsNegatedAs (o :: (text ++ [d])) (o :: (value ++ [d])) 4 := by
  intro fuel rest hfuel _
  have hends : EndsPath (d :: rest) := by
    rintro c ⟨⟩
    exact .inr (.inr (hd.imp_right .inl))
  simp only [List.length_cons, List.length_append] at hfuel
  rw [List.cons_append, List.append_assoc, List.cons_append, List.nil_append,
    desugarNegations_cons (by rcases ho with rfl | rfl <;> decide),
    h fuel (d :: rest) (by omega) (.inr hends),
    desugarNegations_cons (by rcases hd with rfl | rfl <;> decide)]
  simp

theorem IsNegatedAs.joined {a a' b b' m : List Char} {l l' : Nat} (ha : IsNegatedAs a a' l)
    (hm : '!' ∉ m) (hb : IsNegatedAs b b' l')
    (hends : ∀ rest, EndsPath rest → EndsPath (m ++ (b ++ rest))) {level : Nat}
    (hlevel : level < 4) : IsNegatedAs (a ++ (m ++ b)) (a' ++ (m ++ b')) level := by
  intro fuel rest hfuel hrest
  have hrest : EndsPath rest := hrest.resolve_left (by omega)
  simp only [List.length_append] at hfuel
  rw [List.append_assoc, List.append_assoc, ha fuel _ (by omega) (.inr (hends rest hrest)),
    desugarNegations_append hm, hb fuel rest (by omega) (.inr hrest)]
  simp

theorem IsNegatedAs.within {e : Expression}
    (h : IsNegatedAs (e.write formulaStyle) (e.write negatedStyle) e.level) (level : Nat) :
    IsNegatedAs (e.within level (e.write formulaStyle)) (e.within level (e.write negatedStyle))
      level := by
  unfold Expression.within
  split
  · intro fuel rest hfuel _
    exact h.enclosed (.inl rfl) (.inl rfl) fuel rest hfuel (.inl (Nat.le_refl 4))
  · intro fuel rest hfuel hrest
    exact h fuel rest hfuel (hrest.imp_left fun hlevel => by omega)

theorem endsPath_space (cs : List Char) : EndsPath (' ' :: cs) := by
  rintro c ⟨⟩
  exact .inl rfl

theorem endsPath_writeRest (es : List Expression) {rest : List Char} (hrest : EndsPath rest) :
    EndsPath (writeRest formulaStyle es ++ rest) := by
  cases es with
  | nil => exact hrest
  | cons e es =>
    rintro c ⟨⟩
    exact .inr (.inl rfl)

section

variable {es : List Expression}

theorem isNegatedAs_writeRest
    (hes : ∀ e ∈ es, IsNegatedAs (e.write formulaStyle) (e.write negatedStyle) e.level) :
    IsNegatedAs (writeRest formulaStyle es) (writeRest negatedStyle es) 0 := by
  induction es with
  | nil => exact fun _ _ _ _ => rfl
  | cons e es ih =>
    obtain ⟨he, hes⟩ := List.forall_mem_cons.mp hes
    have hcomma : IsNegatedAs [] [] 0 := fun _ _ _ _ => rfl
    have hitem := he.joined (m := []) (by simp) (ih hes) (fun _ h => endsPath_writeRest es h)
      (Nat.zero_lt_succ 3)
    exact hcomma.joined (m := ", ".toList) (by decide) hitem
      (fun _ _ => by rintro c ⟨⟩; exact .inr (.inl rfl)) (Nat.zero_lt_succ 3)

theorem isNegatedAs_writeItems
    (hes : ∀ e ∈ es, IsNegatedAs (e.write formulaStyle) (e.write negatedStyle) e.level) :
    IsNegatedAs (writeItems formulaStyle es) (writeItems negatedStyle es) 0 := by
  cases es with
  | nil => exact fun _ _ _ _ => rfl
  | cons e es =>
    obtain ⟨he, hes⟩ := List.forall_mem_cons.mp hes
    exact he.joined (m := []) (by simp) (isNegatedAs_writeRest hes)
      (fun _ h => endsPath_writeRest es h) (Nat.zero_lt_succ 3)

end

theorem isNegatedAs_write (e : Expression) :
    IsNegatedAs (e.write formulaStyle) (e.write negatedStyle) e.level := by
  induction e using Expression.induct with
  | atom a =>
    intro fuel rest _ _
    refine desugarNegations_append (fun hmem => ?_) rest
    exact absurd (a.isFreeWord.2.1 _ hmem) (by decide)
  | not e ih =>
    intro fuel rest hfuel hrest
    have hrest : EndsPath rest := hrest.resolve_left (Nat.not_succ_le_self 3)
    change (e.within 3 (e.write formulaStyle)).length + 1 ≤ fuel at hfuel
    obtain ⟨fuel, rfl⟩ : ∃ n, fuel = n + 1 := ⟨fuel - 1, by omega⟩
    -- the operand is desugared by itself
    have hoperand := ih.within 3 fuel [] (Nat.le_of_succ_le_succ hfuel) (.inr (by rintro c ⟨⟩))
    rw [List.append_nil, show desugarNegations (fuel + 1) [] = [] from rfl,
      List.append_nil] at hoperand
    have hlayout := (isLaidOut_write isSound_formulaStyle e).within (e := e) 3
    refine (desugarNegations_not hlayout hrest
      (operandLength_within (fun h _ hrest => operandLength_write h hrest) hrest)).trans ?_
    rw [hoperand]
    rfl
  | and a b iha ihb =>
    exact (iha.within 2).joined (m := " && ".toList) (by decide) (ihb.within 3)
      (fun _ _ => endsPath_space _) (by simp [Expression.level])
  | or a b iha ihb =>
    exact (iha.within 1).joined (m := " || ".toList) (by decide) (ihb.within 2)
      (fun _ _ => endsPath_space _) (by simp [Expression.level])
  | cond c a b ihc iha ihb =>
    have hbranches := iha.joined (m := " : ".toList) (by decide) ihb
      (fun _ _ => endsPath_space _) (Nat.zero_lt_succ 3)
    exact (ihc.within 1).joined (m := " ? ".toList) (by decide) hbranches
      (fun _ _ => endsPath_space _) (by simp [Expression.level])
  | call f args ihf ihargs =>
    have hargs := (isNegatedAs_writeItems ihargs).enclosed (.inl rfl) (.inl rfl)
    intro fuel rest hfuel _
    rw [Expression.write, List.length_append] at hfuel
    rw [Expression.write, List.append_assoc,
      ihf.within 4 fuel _ (by omega) (.inl (Nat.le_refl 4)), bracketed,
      hargs fuel rest (Nat.le_trans (Nat.le_add_left _ _) hfuel) (.inl (Nat.le_refl 4)),
      Expression.write, List.append_assoc]
    rfl
  | array items ih => exact (isNegatedAs_writeItems ih).enclosed (.inr rfl) (.inr rfl)

/-- Every negation of a formula is rewritten, and nothing else. -/
theorem desugarNegations_within (e : Expression) (level : Nat) :
    desugarNegations ((e.within level (e.write formulaStyle)).length + 1)
        (e.within level (e.write formulaStyle)) = e.within level (e.write negatedStyle) := by
  have h := (isNegatedAs_write e).within level _ [] (Nat.le_refl _) (.inr (by rintro c ⟨⟩))
  rw [List.append_nil] at h
  exact h.trans (List.append_nil _)

end FormulaSheet.Desugaring
