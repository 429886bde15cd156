import Mathlib.Data.List.Infix
import Mathlib.Data.List.Zip
import FormulaSheet.Proofs.Desugaring.PathScripts

/-!
Texts that are scripts already (`IsPlainScript`). No rule for words applies anywhere in them, and
their code is inert, so `toScript_plain` gives them back as they were: with all their blanks, and
with all their brackets whether these match or not.
-/

namespace FormulaSheet.Desugaring

/-! ## Places -/

/-- Wherever `text` stands in `cs`, `P` holds of what is before it and what is after it. -/
def AtEvery (text cs : List Char) (P : List Char → List Char → Prop) : Prop :=
  ∀ a b, cs = a ++ (text ++ b) → P a b

/-- The places are found by cutting the text in two everywhere. -/
theorem atEvery_iff {text cs : List Char} {P : List Char → List Char → Prop} :
    AtEvery text cs P ↔ ∀ cut ∈ cs.inits.zip cs.tails, ∀ b ∈ after? text cut.2, P cut.1 b := by
  constructor
  · rintro h ⟨a, rest⟩ hcut b hb
    refine h a b ?_
    rw [← after?_eq_some_iff.mp hb]
    exact (List.mem_zip_inits_tails.mp hcut).symm
  · rintro h a b rfl
    exact h (a, text ++ b) (List.mem_zip_inits_tails.mpr rfl) b (after?_eq_some_iff.mpr rfl)

instance (text cs : List Char) (P : List Char → List Char → Prop) [∀ a b, Decidable (P a b)] :
    Decidable (AtEvery text cs P) := decidable_of_iff _ atEvery_iff.symm

/-! ## Plain scripts -/

/-- The words that scripts write differently, those before a point included. -/
def formulaWords : List (List Char) :=
  ["null", "undefined", "var", "Math", "console"].map String.toList

/-- Whether a word goes on with a character; it never does with a blank. -/
def continuesWord (c : Char) : Bool := Text.isWord c && !Text.isBlank c

/-- A text in which nothing is written otherwise than in scripts. -/
@[mk_iff]
structure IsPlainScript (cs : List Char) : Prop where
  quote : '"' ∉ cs ∧ '\'' ∉ cs ∧ '`' ∉ cs
  negation : '!' ∉ cs
  equals : ¬ ['=', '=', '='] <:+: cs
  arrow : ¬ ['=', '>'] <:+: cs
  and : ¬ ['&', '&'] <:+: cs
  or : ¬ ['|', '|'] <:+: cs
  /-- Every question mark is one of `??`, or that of `?.` or `?[`. -/
  question : AtEvery ['?'] cs fun a b =>
    a.getLast? = some '?' ∨ b.head? ∈ [some '?', some '.', some '[']
  /-- Each of the words only stands as a part of a longer one. -/
  word : ∀ w ∈ formulaWords, AtEvery w cs fun a b =>
    (a.getLast?).any continuesWord = true ∨ (b.head?).any continuesWord = true
  /-- No `_` has a point behind it, or behind the blanks after it. -/
  aggregate : AtEvery ['_'] cs fun _ b => (b.dropWhile Text.isBlank).head? ≠ some '.'

instance (cs : List Char) : Decidable (IsPlainScript cs) :=
  decidable_of_iff _ (isPlainScript_iff cs).symm

variable {cs a b rest w new : List Char}

/-! ## Words -/

theorem not_continuesWord_of_not_isWord {next : Option Char} (h : (!next.any Text.isWord) = true) :
    next.any continuesWord = false := by
  cases next with
  | none => rfl
  | some c => simp_all [continuesWord]

/-- A word that a point follows does not go on. -/
theorem not_continuesWord_of_afterPoint? (h : (afterPoint? rest).isSome) :
    rest.head?.any continuesWord = false := by
  cases rest with
  | nil => rfl
  | cons c rest =>
    change continuesWord c = false
    cases hblank : Text.isBlank c with
    | true => simp [continuesWord, hblank]
    | false =>
      have htrim : trimStart (c :: rest) = c :: rest :=
        List.dropWhile_cons_of_neg (by simp [hblank])
      unfold afterPoint? at h
      split at h
      · rename_i hpoint
        obtain ⟨rfl, -⟩ := List.cons.inj (htrim.symm.trans hpoint)
        decide
      · cases h

theorem IsPlainScript.continuesWord (h : IsPlainScript cs) (hw : w ∈ formulaWords)
    (hcs : cs = a ++ b) (hstarts : startsWord a.getLast? = true) (hrest : after? w b = some rest) :
    rest.head?.any continuesWord = true := by
  have hplace := h.word w hw a rest (by rw [hcs, after?_eq_some_iff.mp hrest])
  exact hplace.resolve_left (by simp [not_continuesWord_of_not_isWord hstarts])

theorem IsPlainScript.wordRule_eq_none (h : IsPlainScript cs) (hw : w ∈ formulaWords)
    (hcs : cs = a ++ b) : wordRule w new a.getLast? b = none := by
  refine Option.not_isSome_iff_eq_none.mp fun hsome => ?_
  obtain ⟨hstarts, rest, hrest, hends⟩ := exists_of_wordRule hsome
  have hgoes := h.continuesWord hw hcs hstarts hrest
  rw [not_continuesWord_of_not_isWord hends] at hgoes
  cases hgoes

/-- None of the words is found with a point behind it, whatever is done with what comes next. -/
theorem IsPlainScript.member_eq_none {α : Type} (h : IsPlainScript cs) (hw : w ∈ formulaWords)
    (hcs : cs = a ++ b) (next : List Char → Option α) :
    (if startsWord a.getLast? then
      (after? w b).bind fun rest => (afterPoint? rest).bind next else none) = none := by
  split
  · rename_i hstarts
    cases hrest : after? w b with
    | none => rfl
    | some rest =>
      have hgoes := h.continuesWord hw hcs hstarts hrest
      cases hpoint : afterPoint? rest with
      | none => simp [hpoint]
      | some point =>
        rw [not_continuesWord_of_afterPoint? (by rw [hpoint]; rfl)] at hgoes
        cases hgoes
  · rfl

theorem IsPlainScript.logRule_eq_none (h : IsPlainScript cs) (hcs : cs = a ++ b) :
    logRule a.getLast? b = none := h.member_eq_none (w := "console".toList) (by decide) hcs _

theorem IsPlainScript.mathRule_eq_none (h : IsPlainScript cs) (hcs : cs = a ++ b) :
    mathRule a.getLast? b = none := h.member_eq_none (w := "Math".toList) (by decide) hcs _

theorem IsPlainScript.aggregateName_eq_none (h : IsPlainScript cs) (hcs : cs = a ++ b)
    (kept : List Char) : aggregateName kept b = none := by
  unfold aggregateName
  cases hrest : after? ['_'] b with
  | none => rfl
  | some rest =>
    have hpoint : (trimStart rest).head? ≠ some '.' :=
      h.aggregate a rest (by rw [hcs, after?_eq_some_iff.mp hrest])
    have hnone : afterPoint? rest = none := by
      unfold afterPoint?
      split
      · rename_i htrim
        exact absurd (congrArg List.head? htrim) hpoint
      · rfl
    rw [Option.bind_some, hnone, Option.bind_none]

theorem IsPlainScript.aggregateRule_eq_none (h : IsPlainScript cs) {c : Char}
    (hcs : cs = a ++ c :: b) : aggregateRule a.getLast? (c :: b) = none := by
  have hbehind : cs = (a ++ [c]) ++ b := by rw [hcs, List.append_cons]
  rw [aggregateRule_cons, h.aggregateName_eq_none hcs, h.aggregateName_eq_none hbehind, ite_self,
    ite_self]
  rfl

theorem IsPlainScript.desugarWords (h : IsPlainScript cs) : desugarWords cs = cs := by
  have hnotEquals : replaceText ['!', '=', '='] ['!', '='] cs = cs :=
    replaceText_eq_self fun hin => h.negation (hin.subset List.mem_cons_self)
  have hequals : replaceText ['=', '=', '='] ['=', '='] cs = cs := replaceText_eq_self h.equals
  have hnull : replaceAll (fun before cs => wordRule "null".toList ['(', ')'] before cs <|>
      wordRule "undefined".toList ['(', ')'] before cs) cs = cs := by
    refine replaceAll_eq_self fun a c b hcs => ?_
    rw [h.wordRule_eq_none (by decide) hcs, h.wordRule_eq_none (by decide) hcs]
    rfl
  have hvar : replaceAll (wordRule "var".toList "let".toList) cs = cs :=
    replaceAll_eq_self fun a c b hcs => h.wordRule_eq_none (by decide) hcs
  have hlog : replaceAll logRule cs = cs := replaceAll_eq_self fun a c b => h.logRule_eq_none
  have hmath : replaceAll mathRule cs = cs := replaceAll_eq_self fun a c b => h.mathRule_eq_none
  have haggregate : replaceAll aggregateRule cs = cs :=
    replaceAll_eq_self fun a c b => h.aggregateRule_eq_none
  have harrowList : replaceAll arrowListRule cs = cs :=
    replaceAll_of_not_isInfix h.arrow arrow_isInfix_of_arrowListRule
  have harrow : replaceAll arrowRule cs = cs :=
    replaceAll_of_not_isInfix h.arrow arrow_isInfix_of_arrowRule
  simp only [Desugaring.desugarWords, hnotEquals, hequals, hnull, hvar, hlog, hmath, haggregate,
    harrowList, harrow]

/-! ## Scripts -/

theorem IsPlainScript.isInert (h : IsPlainScript cs) : IsInert cs where
  question := by
    intro a b hcs
    rcases h.question a b hcs with hbefore | hafter
    · simp [isQuestion, hbefore]
    · simp only [List.mem_cons, List.not_mem_nil, or_false] at hafter
      rcases hafter with hafter | hafter | hafter <;> simp [isQuestion, hafter]
  and := h.and
  or := h.or

/-- A plain script is not changed, whatever blanks and brackets it holds. -/
theorem toScript_plain (text : String) (h : IsPlainScript text.toList) : toScript text = text := by
  have hquote : ∀ c ∈ text.toList, isQuote c = false := by
    intro c hc
    obtain ⟨hdouble, hsingle, hback⟩ := h.quote
    simp [isQuote, ne_of_mem_of_not_mem hc hdouble, ne_of_mem_of_not_mem hc hsingle,
      ne_of_mem_of_not_mem hc hback]
  have hnegations : desugarNegations (text.toList.length + 1) text.toList = text.toList :=
    desugarNegations_eq_self h.negation
  rw [toScript, mask_eq_self hquote]
  simp only [h.desugarWords, hnegations, h.isInert.desugarConditionals_eq_self]
  exact String.ofList_toList

theorem toScript_plain_unmatched :
    IsPlainScript "f(a ?? nullable,\t[b?.c;  \x7b d?[ 0]) =  Maths[_x .y | invar ".toList ∧
      toScript "f(a ?? nullable,\t[b?.c;  \x7b d?[ 0]) =  Maths[_x .y | invar " =
        "f(a ?? nullable,\t[b?.c;  \x7b d?[ 0]) =  Maths[_x .y | invar " :=
  ⟨by decide +kernel, toScript_plain _ (by decide +kernel)⟩

end FormulaSheet.Desugaring
