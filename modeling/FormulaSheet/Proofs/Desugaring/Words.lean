import Mathlib.Data.List.TakeDrop
import FormulaSheet.Desugaring.Literals
import FormulaSheet.Desugaring.Words
import FormulaSheet.Proofs.Desugaring.Layout

/-!
Formulas of free words and marks (`IsPlain`), which hold no literals and whose words and marks are
the same in scripts: every rule for words either looks for a reserved word or needs a point or an
equals sign, and none of these occurs.
-/

namespace FormulaSheet.Desugaring

/-! ## Plain texts -/

def plainMarks : List Char := "!&|?:,()[]\x7b\x7d# ".toList

/-- A text of free words and marks. -/
inductive IsPlain : List Char → Prop
  | nil : IsPlain []
  | mark {c : Char} {cs : List Char} : c ∈ plainMarks → IsPlain cs → IsPlain (c :: cs)
  | word {w cs : List Char} : IsFreeWord w → (∀ c ∈ cs.head?, isIdentifierChar c = false) →
    IsPlain cs → IsPlain (w ++ cs)

theorem not_isIdentifierChar_of_mem_plainMarks {c : Char} (h : c ∈ plainMarks) :
    isIdentifierChar c = false := by
  have hmarks : plainMarks.all (fun c => !isIdentifierChar c) = true := by decide
  simpa using List.all_eq_true.mp hmarks c h

theorem IsPlain.append {a b : List Char} (ha : IsPlain a) (hb : IsPlain b)
    (hhead : ∀ c ∈ b.head?, isIdentifierChar c = false) : IsPlain (a ++ b) := by
  induction ha with
  | nil => exact hb
  | mark hc _ ih => exact .mark hc ih
  | @word w cs hw hcs _ ih =>
    rw [List.append_assoc]
    refine .word hw (fun c hc => ?_) ih
    cases cs with
    | nil => exact hhead c hc
    | cons c' cs => exact hcs c hc

theorem IsPlain.marks {ms cs : List Char} (hms : ms ⊆ plainMarks) (h : IsPlain cs) :
    IsPlain (ms ++ cs) := by
  induction ms with
  | nil => exact h
  | cons c ms ih =>
    obtain ⟨hc, hms⟩ := List.cons_subset.mp hms
    exact .mark hc (ih hms)

theorem IsPlain.not_mem {x : Char} {cs : List Char} (h : IsPlain cs)
    (hx : isIdentifierChar x = false ∧ x ∉ plainMarks) : x ∉ cs := by
  induction h with
  | nil => simp
  | mark hc _ ih => exact List.not_mem_cons_of_ne_of_not_mem (fun hxc => hx.2 (hxc ▸ hc)) ih
  | word hw _ _ ih =>
    refine List.not_mem_append (fun hxw => ?_) ih
    rw [hw.2.1 x hxw] at hx
    exact absurd hx.1 (by decide)

/-! ## Literals -/

theorem maskFrom_code {cs : List Char} (h : ∀ c ∈ cs, isQuote c = false) (m : Masked) :
    maskFrom .code m cs = { m with code := cs.reverse ++ m.code } := by
  induction cs generalizing m with
  | nil => simp [maskFrom]
  | cons c cs ih =>
    rw [maskFrom, if_neg (by simp [h c (by simp)]), ih fun c' hc' => h c' (by simp [hc'])]
    simp

theorem mask_eq_self {cs : List Char} (h : ∀ c ∈ cs, isQuote c = false) : mask cs = (cs, []) := by
  simp [mask, maskFrom_code h]

theorem IsPlain.mask {cs : List Char} (h : IsPlain cs) : mask cs = (cs, []) := by
  have hquote : ∀ c ∈ cs, isQuote c = false := by
    intro c hc
    cases hq : isQuote c with
    | false => rfl
    | true =>
      simp only [isQuote, Bool.or_eq_true, beq_iff_eq, or_assoc] at hq
      rcases hq with rfl | rfl | rfl <;> exact absurd hc (h.not_mem (by decide))
  exact mask_eq_self hquote

/-! ## Rules that apply where a word begins -/

/-- A rule that only applies at the beginning of a word. -/
def IsAnchored (rule : Rule) : Prop := ∀ before cs, (rule before cs).isSome →
  startsWord before = true ∧ ∃ c ∈ cs.head?, isIdentifierChar c = true

theorem IsAnchored.eq_none {rule : Rule} (hrule : IsAnchored rule) {c : Char}
    (hc : isIdentifierChar c = false) (before : Option Char) (cs : List Char) :
    rule before (c :: cs) = none := by
  refine Option.not_isSome_iff_eq_none.mp fun hsome => ?_
  obtain ⟨-, d, hd, hchar⟩ := hrule _ _ hsome
  cases hd
  exact absurd (hchar.symm.trans hc) (by decide)

/-- Nothing is replaced in the middle of a word. -/
theorem IsAnchored.replaceFrom_word {rule : Rule} (hrule : IsAnchored rule)
    {b : Char} {w : List Char} (hb : isIdentifierChar b = true)
    (hw : ∀ c ∈ w, isIdentifierChar c = true) (cs : List Char) :
    ∃ b', replaceFrom rule (some b) 0 (w ++ cs) = w ++ replaceFrom rule (some b') 0 cs := by
  induction w generalizing b with
  | nil => exact ⟨b, rfl⟩
  | cons c w ih =>
    have hnone : rule (some b) (c :: (w ++ cs)) = none := by
      refine Option.not_isSome_iff_eq_none.mp fun hsome => ?_
      have hstarts := (hrule _ _ hsome).1
      simp [startsWord, isWord_of_isIdentifierChar hb] at hstarts
    obtain ⟨b', hb'⟩ := ih (hw c (by simp)) fun c' hc' => hw c' (by simp [hc'])
    refine ⟨b', ?_⟩
    rw [List.cons_append, replaceFrom, hnone]
    simp only [hb', List.cons_append]

/-! ## Rules for reserved words -/

/-- A rule that only replaces reserved words, whole ones. -/
def ForReservedWords (rule : Rule) : Prop := ∀ before cs, (rule before cs).isSome →
  startsWord before = true ∧
    ∃ word ∈ reservedWords, ∃ rest, after? word cs = some rest ∧ endsWord rest = true

theorem exists_of_wordRule {word new : List Char} {before : Option Char} {cs : List Char}
    (h : (wordRule word new before cs).isSome) :
    startsWord before = true ∧ ∃ rest, after? word cs = some rest ∧ endsWord rest = true := by
  unfold wordRule at h
  split at h
  · cases hafter : after? word cs with
    | none => simp [hafter] at h
    | some rest =>
      simp only [hafter, Option.bind_some] at h
      split at h
      · exact ⟨‹_›, rest, rfl, ‹_›⟩
      · simp at h
  · simp at h

theorem forReservedWords_wordRule (word new : List Char) (hword : word ∈ reservedWords) :
    ForReservedWords (wordRule word new) := by
  intro before cs hsome
  obtain ⟨hstarts, rest, hafter, hends⟩ := exists_of_wordRule hsome
  exact ⟨hstarts, word, hword, rest, hafter, hends⟩

theorem ForReservedWords.orElse {r r' : Rule} (h : ForReservedWords r)
    (h' : ForReservedWords r') : ForReservedWords fun before cs => r before cs <|> r' before cs := by
  intro before cs hsome
  cases hr : r before cs with
  | some new => exact h before cs (by simp [hr])
  | none => exact h' before cs (by simpa [hr] using hsome)

theorem ForReservedWords.isAnchored {rule : Rule} (hrule : ForReservedWords rule) :
    IsAnchored rule := by
  intro before cs hsome
  obtain ⟨hstarts, word, hword, rest, hafter, -⟩ := hrule before cs hsome
  obtain ⟨hne, hchars⟩ := reservedWord_spec hword
  obtain ⟨a, as, rfl⟩ := List.exists_cons_of_ne_nil hne
  rw [after?_eq_some_iff.mp hafter]
  exact ⟨hstarts, a, rfl, hchars a (by simp)⟩

theorem ForReservedWords.replaceFrom_eq_self {rule : Rule} (hrule : ForReservedWords rule)
    {cs : List Char} (h : IsPlain cs) (before : Option Char) :
    replaceFrom rule before 0 cs = cs := by
  induction h generalizing before with
  | nil => rfl
  | @mark c cs hc _ ih =>
    rw [replaceFrom, hrule.isAnchored.eq_none (not_isIdentifierChar_of_mem_plainMarks hc)]
    simp only [ih]
  | @word w cs hw hcs _ ih =>
    have hnone : rule before (w ++ cs) = none := by
      refine Option.not_isSome_iff_eq_none.mp fun hsome => ?_
      obtain ⟨-, word, hword, rest, hafter, hends⟩ := hrule _ _ hsome
      obtain ⟨c, hc, hchar⟩ := (Opens.word hw hcs).after? hword hafter
      simp [endsWord, Option.mem_def.mp hc, isWord_of_isIdentifierChar hchar] at hends
    obtain ⟨c, w, rfl⟩ := List.exists_cons_of_ne_nil hw.1
    obtain ⟨b', hb'⟩ := hrule.isAnchored.replaceFrom_word (w := w) (hw.2.1 c (by simp))
      (fun c' hc' => hw.2.1 c' (by simp [hc'])) cs
    rw [List.cons_append] at hnone ⊢
    rw [replaceFrom, hnone]
    simp only [hb', ih]

theorem ForReservedWords.replaceAll_eq_self {rule : Rule} (hrule : ForReservedWords rule)
    {cs : List Char} (h : IsPlain cs) : replaceAll rule cs = cs := hrule.replaceFrom_eq_self h none

/-! ## Rules that need a mark -/

/-- Where a rule applies nowhere in a text, nothing is replaced. -/
theorem replaceAll_eq_self {rule : Rule} {cs : List Char}
    (h : ∀ a c b, cs = a ++ c :: b → rule a.getLast? (c :: b) = none) :
    replaceAll rule cs = cs := by
  -- the text after some front, which gives the character before it
  have hfrom : ∀ rest front, cs = front ++ rest →
      replaceFrom rule front.getLast? 0 rest = rest := by
    intro rest
    induction rest with
    | nil => exact fun _ _ => rfl
    | cons c rest ih =>
      intro front hcs
      have hnext := ih (front ++ [c]) (by rw [hcs, List.append_cons])
      rw [List.getLast?_concat] at hnext
      rw [replaceFrom, h front c rest hcs]
      simp only [hnext]
  exact hfrom cs [] rfl

/-- A rule that only applies where some character stands or follows. -/
def Needs (x : Char) (rule : Rule) : Prop := ∀ before cs, (rule before cs).isSome → x ∈ cs

theorem Needs.replaceAll_eq_self {x : Char} {rule : Rule} (hrule : Needs x rule) {cs : List Char}
    (h : x ∉ cs) : replaceAll rule cs = cs := by
  refine Desugaring.replaceAll_eq_self fun a c b hcs => ?_
  refine Option.not_isSome_iff_eq_none.mp fun hsome => h ?_
  rw [hcs]
  exact List.mem_append_right a (hrule _ _ hsome)

theorem after?_isSuffix {p cs rest : List Char} (h : after? p cs = some rest) : rest <:+ cs :=
  ⟨p, (after?_eq_some_iff.mp h).symm⟩

theorem after?_isInfix {p cs rest : List Char} (h : after? p cs = some rest) : p <:+: cs :=
  ⟨[], rest, (after?_eq_some_iff.mp h).symm⟩

/-- A rule that needs a text does nothing without it. -/
theorem replaceAll_of_not_isInfix {rule : Rule} {text cs : List Char} (h : ¬ text <:+: cs)
    (hrule : ∀ {before rest}, (rule before rest).isSome → text <:+: rest) :
    replaceAll rule cs = cs := by
  refine replaceAll_eq_self fun a c b hcs => ?_
  refine Option.not_isSome_iff_eq_none.mp fun hsome => h ?_
  exact (hrule hsome).trans ⟨a, [], by simp [hcs]⟩

theorem replaceText_eq_self {old new cs : List Char} (h : ¬ old <:+: cs) :
    replaceText old new cs = cs := by
  refine replaceAll_of_not_isInfix h fun {_ rest} hsome => ?_
  rw [Option.isSome_map] at hsome
  obtain ⟨_, hafter⟩ := Option.isSome_iff_exists.mp hsome
  exact after?_isInfix hafter

theorem mem_of_afterPoint? {cs : List Char} (h : (afterPoint? cs).isSome) : '.' ∈ cs := by
  unfold afterPoint? at h
  split at h
  · exact (trimStart_isSuffix cs).subset (by simp [*])
  · simp at h

theorem identifier?_isSuffix {cs name rest : List Char} (h : identifier? cs = some (name, rest)) :
    rest <:+ cs := by
  cases cs with
  | nil => simp [identifier?] at h
  | cons c cs =>
    simp only [identifier?, List.span_eq_takeWhile_dropWhile] at h
    split at h
    · cases h
      exact (List.dropWhile_suffix Text.isWord).trans (List.suffix_cons c cs)
    · cases h

theorem moreParameters_isSuffix (fuel : Nat) (cs : List Char) :
    (moreParameters fuel cs).2 <:+ cs := by
  induction fuel generalizing cs with
  | zero => exact List.suffix_refl cs
  | succ fuel ih =>
    unfold moreParameters
    split
    · rename_i rest htrim
      have hrest : rest <:+ cs :=
        (List.suffix_cons ',' rest).trans (htrim ▸ trimStart_isSuffix cs)
      split
      · rename_i name after hname
        exact (ih after).trans ((identifier?_isSuffix hname).trans
          ((trimStart_isSuffix rest).trans hrest))
      · exact List.suffix_refl cs
    · exact List.suffix_refl cs

theorem parameters_isSuffix (cs : List Char) : (parameters cs).2 <:+ cs := by
  unfold parameters
  split
  · rename_i hname
    exact (moreParameters_isSuffix _ _).trans
      ((identifier?_isSuffix hname).trans (trimStart_isSuffix cs))
  · exact List.suffix_refl cs

theorem needs_logRule : Needs '.' logRule := by
  intro before cs hsome
  obtain ⟨new, hnew⟩ := Option.isSome_iff_exists.mp hsome
  simp only [logRule, Option.ite_none_right_eq_some, Option.bind_eq_bind,
    Option.bind_eq_some_iff] at hnew
  obtain ⟨-, rest, hrest, point, hpoint, -⟩ := hnew
  exact (after?_isSuffix hrest).subset (mem_of_afterPoint? (by simp [hpoint]))

theorem needs_mathRule : Needs '.' mathRule := by
  intro before cs hsome
  obtain ⟨new, hnew⟩ := Option.isSome_iff_exists.mp hsome
  simp only [mathRule, Option.ite_none_right_eq_some, Option.bind_eq_bind,
    Option.bind_eq_some_iff] at hnew
  obtain ⟨-, rest, hrest, point, hpoint, -⟩ := hnew
  exact (after?_isSuffix hrest).subset (mem_of_afterPoint? (by simp [hpoint]))

theorem needs_aggregateRule : Needs '.' aggregateRule := by
  intro before cs hsome
  have hname : ∀ {kept cs : List Char},
      ((after? ['_'] cs).bind fun rest => (afterPoint? rest).bind fun rest =>
        some (kept ++ "agg::".toList, rest.length)).isSome → '.' ∈ cs := by
    intro kept cs hsome
    obtain ⟨new, hnew⟩ := Option.isSome_iff_exists.mp hsome
    simp only [Option.bind_eq_some_iff] at hnew
    obtain ⟨rest, hrest, point, hpoint, -⟩ := hnew
    exact (after?_isSuffix hrest).subset (mem_of_afterPoint? (by simp [hpoint]))
  have horElse : ∀ {a b : Option (List Char × Nat)}, (a <|> b).isSome → a.isSome ∨ b.isSome := by
    intro a b h
    cases a with
    | none => exact .inr (by simpa using h)
    | some _ => exact .inl rfl
  simp only [aggregateRule, Option.isSome_map] at hsome
  rcases horElse hsome with hstart | hlater
  · split at hstart
    · exact hname hstart
    · simp at hstart
  · cases cs with
    | nil => simp at hlater
    | cons c cs =>
      simp only at hlater
      split at hlater
      · simp at hlater
      · exact List.mem_cons_of_mem c (hname hlater)

/-- The head of an arrow function ends with its arrow. -/
theorem arrow_isInfix_of_arrowListRule {before : Option Char} {cs : List Char}
    (h : (arrowListRule before cs).isSome) : ['=', '>'] <:+: cs := by
  obtain ⟨new, hnew⟩ := Option.isSome_iff_exists.mp h
  simp only [arrowListRule, Option.bind_eq_bind, Option.bind_eq_some_iff] at hnew
  obtain ⟨rest, hrest, closed, hclosed, arrow, harrow, -⟩ := hnew
  have hlist : trimStart (parameters rest).2 <:+ cs := (trimStart_isSuffix _).trans
    ((parameters_isSuffix rest).trans (after?_isSuffix hrest))
  have hhead : trimStart closed <:+ cs :=
    (trimStart_isSuffix closed).trans ((after?_isSuffix hclosed).trans hlist)
  exact (after?_isInfix harrow).trans hhead.isInfix

theorem arrow_isInfix_of_arrowRule {before : Option Char} {cs : List Char}
    (h : (arrowRule before cs).isSome) : ['=', '>'] <:+: cs := by
  obtain ⟨new, hnew⟩ := Option.isSome_iff_exists.mp h
  simp only [arrowRule, Option.ite_none_right_eq_some, Option.bind_eq_bind,
    Option.bind_eq_some_iff] at hnew
  obtain ⟨-, ⟨name, rest⟩, hname, arrow, harrow, -⟩ := hnew
  have hhead : trimStart rest <:+ cs := (trimStart_isSuffix rest).trans (identifier?_isSuffix hname)
  exact (after?_isInfix harrow).trans hhead.isInfix

theorem needs_arrowListRule : Needs '=' arrowListRule :=
  fun _ _ hsome => (arrow_isInfix_of_arrowListRule hsome).subset List.mem_cons_self

theorem needs_arrowRule : Needs '=' arrowRule :=
  fun _ _ hsome => (arrow_isInfix_of_arrowRule hsome).subset List.mem_cons_self

/-- Nothing is rewritten in a plain text. -/
theorem IsPlain.desugarWords {cs : List Char} (h : IsPlain cs) : desugarWords cs = cs := by
  have hequals : '=' ∉ cs := h.not_mem (by decide)
  have hpoint : '.' ∉ cs := h.not_mem (by decide)
  have hnull := (forReservedWords_wordRule "null".toList ['(', ')'] (by decide)).orElse
    (forReservedWords_wordRule "undefined".toList ['(', ')'] (by decide))
  have hvar := forReservedWords_wordRule "var".toList "let".toList (by decide)
  have hne : replaceText ['!', '=', '='] ['!', '='] cs = cs :=
    replaceText_eq_self fun hin => hequals (hin.subset (by simp))
  have heq : replaceText ['=', '=', '='] ['=', '='] cs = cs :=
    replaceText_eq_self fun hin => hequals (hin.subset (by simp))
  simp only [Desugaring.desugarWords, hne, heq, hnull.replaceAll_eq_self h,
    hvar.replaceAll_eq_self h, needs_logRule.replaceAll_eq_self hpoint,
    needs_mathRule.replaceAll_eq_self hpoint, needs_aggregateRule.replaceAll_eq_self hpoint,
    needs_arrowListRule.replaceAll_eq_self hequals, needs_arrowRule.replaceAll_eq_self hequals]

/-! ## Formulas -/

theorem IsPlain.enclosed {cs : List Char} {o d : Char} (h : IsPlain cs)
    (hod : o ∈ plainMarks ∧ d ∈ plainMarks) : IsPlain (o :: (cs ++ [d])) := by
  refine .mark hod.1 (h.append (.mark hod.2 .nil) fun c hc => ?_)
  cases hc
  exact not_isIdentifierChar_of_mem_plainMarks hod.2

theorem IsPlain.within {e : Expression} {text : List Char} (h : IsPlain text) (level : Nat) :
    IsPlain (e.within level text) := by
  unfold Expression.within
  split
  · exact h.enclosed (by decide)
  · exact h

theorem IsPlain.joined {a b ms : List Char} (ha : IsPlain a) (hms : ms ⊆ plainMarks)
    (hne : ms ≠ []) (hb : IsPlain b) : IsPlain (a ++ (ms ++ b)) := by
  refine ha.append (hb.marks hms) fun c hc => ?_
  obtain ⟨m, ms, rfl⟩ := List.exists_cons_of_ne_nil hne
  obtain rfl : m = c := Option.some.inj hc
  exact not_isIdentifierChar_of_mem_plainMarks (hms List.mem_cons_self)

theorem isPlain_writeRest {es : List Expression}
    (hes : ∀ e ∈ es, IsPlain (e.write formulaStyle)) : IsPlain (writeRest formulaStyle es) := by
  induction es with
  | nil => exact .nil
  | cons e es ih =>
    obtain ⟨he, hes⟩ := List.forall_mem_cons.mp hes
    rw [writeRest]
    have hcomma : formulaStyle.comma e ⊆ plainMarks := by
      change ", ".toList ⊆ plainMarks
      decide
    refine .marks hcomma (he.append (ih hes) ?_)
    cases es with
    | nil => simp [writeRest]
    | cons e' es => intro c hc; cases hc; rfl

theorem isPlain_writeItems {es : List Expression}
    (hes : ∀ e ∈ es, IsPlain (e.write formulaStyle)) : IsPlain (writeItems formulaStyle es) := by
  cases es with
  | nil => exact .nil
  | cons e es =>
    obtain ⟨he, hes⟩ := List.forall_mem_cons.mp hes
    rw [writeItems]
    refine he.append (isPlain_writeRest hes) ?_
    cases es with
    | nil => simp [writeRest]
    | cons e' es => intro c hc; cases hc; rfl

theorem isPlain_write (e : Expression) : IsPlain (e.write formulaStyle) := by
  induction e using Expression.induct with
  | atom a => simpa [Expression.write] using IsPlain.word a.isFreeWord (by simp) .nil
  | not e ih => exact .mark (by decide) (ih.within 3)
  | and a b iha ihb => exact (iha.within 2).joined (by decide) (by decide) (ihb.within 3)
  | or a b iha ihb => exact (iha.within 1).joined (by decide) (by decide) (ihb.within 2)
  | cond c a b ihc iha ihb =>
    exact (ihc.within 1).joined (by decide) (by decide) (iha.joined (by decide) (by decide) ihb)
  | call f args ihf ihargs =>
    exact (ihf.within 4).append ((isPlain_writeItems ihargs).enclosed (by decide))
      fun c hc => by cases hc; rfl
  | array items ih => exact (isPlain_writeItems ih).enclosed (by decide)

end FormulaSheet.Desugaring
