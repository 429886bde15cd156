import FormulaSheet.Proofs.Desugaring.Expression
import FormulaSheet.Proofs.Text.Scanning

/-!
The layout of written expressions: they begin with a word, a bracket or a negation, have no blanks
at their ends, and their brackets match (`IsLaidOut`). A style whose operators keep that
(`Style.IsSound`) gives it to every expression.
-/

namespace FormulaSheet.Desugaring

/-! ## Characters of words -/

section

variable {c : Char}

theorem range_of_isIdentifierChar (h : isIdentifierChar c = true) :
    (97 ≤ c.toNat ∧ c.toNat ≤ 122) ∨ (65 ≤ c.toNat ∧ c.toNat ≤ 90) ∨
      (48 ≤ c.toNat ∧ c.toNat ≤ 57) ∨ c.toNat = 95 := by
  simp only [isIdentifierChar, Text.isAsciiAlphanumeric, Text.isAsciiLetter, Text.isAsciiDigit,
    Bool.or_eq_true, Bool.and_eq_true, decide_eq_true_eq, beq_iff_eq, Char.le_def,
    UInt32.le_iff_toNat_le] at h
  rcases h with ((h | h) | h) | rfl
  · exact .inl h
  · exact .inr (.inl h)
  · exact .inr (.inr (.inl h))
  · exact .inr (.inr (.inr rfl))

theorem isNameChar_of_isIdentifierChar (h : isIdentifierChar c = true) : isNameChar c = true := by
  have hrange := range_of_isIdentifierChar h
  have hlt : c.toNat < 128 := by omega
  rw [isNameChar, Text.isAlphanumeric, if_pos hlt]
  exact h

theorem isWord_of_isIdentifierChar (h : isIdentifierChar c = true) : Text.isWord c = true := by
  have hrange := range_of_isIdentifierChar h
  have hlt : c.toNat < 128 := by omega
  rw [Text.isWord, if_pos hlt]
  exact h

theorem not_isBlank_of_isIdentifierChar (h : isIdentifierChar c = true) :
    Text.isBlank c = false := by
  have hrange := range_of_isIdentifierChar h
  simp [Text.isBlank]
  omega

theorem ne_of_isIdentifierChar {x : Char} (h : isIdentifierChar c = true)
    (hx : isIdentifierChar x = false) : c ≠ x := by
  rintro rfl
  exact absurd (h.symm.trans hx) (by decide)

theorem closer?_of_isIdentifierChar (h : isIdentifierChar c = true) : closer? c = none := by
  unfold closer?
  split
  · exact absurd rfl (ne_of_isIdentifierChar h (by decide))
  · exact absurd rfl (ne_of_isIdentifierChar h (by decide))
  · exact absurd rfl (ne_of_isIdentifierChar h (by decide))
  · rfl

theorem not_isCloser_of_isIdentifierChar (h : isIdentifierChar c = true) : isCloser c = false := by
  have hround : c ≠ ')' := ne_of_isIdentifierChar h (by decide)
  have hsquare : c ≠ ']' := ne_of_isIdentifierChar h (by decide)
  have hcurly : c ≠ '\x7d' := ne_of_isIdentifierChar h (by decide)
  simp [isCloser, hround, hsquare, hcurly]

end

/-! ## Words -/

/-- The text of a name without a meaning of its own, or of a number. -/
def IsFreeWord (w : List Char) : Prop :=
  w ≠ [] ∧ (∀ c ∈ w, isIdentifierChar c = true) ∧ w ∉ reservedWords

theorem Atom.isFreeWord (a : Atom) : IsFreeWord a.chars := by
  cases a with
  | name n =>
    refine ⟨fun hnil => ?_, List.all_eq_true.mp n.isIdentifier.1, n.isFree⟩
    have hhead := n.isIdentifier.2
    simp [show n.chars = [] from hnil] at hhead
  | number n =>
    have hdigit : ∀ c ∈ Nat.toDigits 10 n, Text.isAsciiDigit c = true := by
      intro c hc
      simpa [Text.isAsciiDigit, Char.isDigit, Char.le_def] using
        Nat.isDigit_of_mem_toDigits (by decide) (by decide) hc
    refine ⟨Nat.toDigits_ne_nil, fun c hc => ?_, fun hmem => ?_⟩
    · simp [isIdentifierChar, Text.isAsciiAlphanumeric, hdigit c hc]
    · -- no reserved word begins with a digit
      have hreserved : reservedWords.all (List.any · fun c => !Text.isAsciiDigit c) = true := by
        decide
      obtain ⟨c, hc, hno⟩ := List.any_eq_true.mp (List.all_eq_true.mp hreserved _ hmem)
      simp [hdigit c hc] at hno

theorem IsFreeWord.grouped {w : List Char} (h : IsFreeWord w) : Grouped isIdentifierChar w :=
  .of_forall fun c hc => ⟨closer?_of_isIdentifierChar (h.2.1 c hc),
    not_isCloser_of_isIdentifierChar (h.2.1 c hc), h.2.1 c hc⟩

/-! ## Both ends -/

/-- A text that begins with a free word, a bracket, a negation or the mark of a map. -/
inductive Opens : List Char → Prop
  | word {w rest : List Char} : IsFreeWord w → (∀ c ∈ rest.head?, isIdentifierChar c = false) →
    Opens (w ++ rest)
  | mark {c : Char} {rest : List Char} : c = '(' ∨ c = '[' ∨ c = '!' ∨ c = '#' → Opens (c :: rest)

theorem Opens.append {a b : List Char} (h : Opens a)
    (hb : ∀ c ∈ b.head?, isIdentifierChar c = false) : Opens (a ++ b) := by
  cases h with
  | mark hc => exact .mark hc
  | @word w rest hw hrest =>
    rw [List.append_assoc]
    refine .word hw fun c hc => ?_
    cases rest with
    | nil => exact hb c hc
    | cons r rest => exact hrest c hc

theorem Opens.head {cs : List Char} (h : Opens cs) :
    ∃ c ∈ cs.head?, isIdentifierChar c = true ∨ c = '(' ∨ c = '[' ∨ c = '!' ∨ c = '#' := by
  cases h with
  | mark hc => exact ⟨_, rfl, .inr hc⟩
  | word hw _ =>
    obtain ⟨c, w, rfl⟩ := List.exists_cons_of_ne_nil hw.1
    exact ⟨c, rfl, .inl (hw.2.1 c (by simp))⟩

theorem after?_eq_some_iff {p cs rest : List Char} : after? p cs = some rest ↔ cs = p ++ rest := by
  induction p generalizing cs with
  | nil => simp [after?]
  | cons a p ih =>
    cases cs with
    | nil => simp [after?]
    | cons c cs =>
      by_cases hac : a = c
      · simp [after?, hac, ih]
      · simp [after?, hac, Ne.symm hac]

theorem reservedWord_spec {w : List Char} (h : w ∈ reservedWords) :
    w ≠ [] ∧ ∀ c ∈ w, isIdentifierChar c = true := by
  have hwords : reservedWords.all (fun w => !w.isEmpty && w.all isIdentifierChar) = true := by
    decide
  simpa using List.all_eq_true.mp hwords w h

/-- No reserved word stands at the front as a word of its own. -/
theorem Opens.after? {word cs rest : List Char} (h : Opens cs) (hword : word ∈ reservedWords)
    (hafter : after? word cs = some rest) : ∃ c ∈ rest.head?, isIdentifierChar c = true := by
  obtain ⟨hne, hchars⟩ := reservedWord_spec hword
  have hcs := after?_eq_some_iff.mp hafter
  cases h with
  | @mark c _ hc =>
    obtain ⟨a, as, rfl⟩ := List.exists_cons_of_ne_nil hne
    obtain ⟨rfl, -⟩ := List.cons.inj hcs
    have hchar := hchars c (by simp)
    rcases hc with rfl | rfl | rfl | rfl <;> exact absurd hchar (by decide)
  | @word w more hw hmore =>
    rcases List.append_eq_append_iff.mp hcs with ⟨more, rfl, rfl⟩ | ⟨more, rfl, rfl⟩
    · cases more with
      | nil => exact absurd (by simpa using hword) hw.2.2
      | cons c more =>
        have hchar := hchars c (by simp)
        rw [hmore c (by simp)] at hchar
        cases hchar
    · cases more with
      | nil => exact absurd (by simpa using hword) hw.2.2
      | cons c more => exact ⟨c, rfl, hw.2.1 c (by simp)⟩

/-- A text without blanks at its ends. -/
def IsTrimmed (cs : List Char) : Prop :=
  (∃ c ∈ cs.head?, Text.isBlank c = false) ∧ ∃ c ∈ cs.getLast?, Text.isBlank c = false

theorem IsTrimmed.ne_nil {cs : List Char} (h : IsTrimmed cs) : cs ≠ [] := by
  rintro rfl
  simpa using h.1

theorem IsTrimmed.append {a b : List Char} (ha : IsTrimmed a) (hb : IsTrimmed b)
    (m : List Char) : IsTrimmed (a ++ (m ++ b)) := by
  obtain ⟨c, hc, hcblank⟩ := ha.1
  obtain ⟨d, hd, hdblank⟩ := hb.2
  refine ⟨⟨c, ?_, hcblank⟩, ⟨d, ?_, hdblank⟩⟩
  · rw [List.head?_append, Option.mem_def.mp hc]
    rfl
  · rw [List.getLast?_append, List.getLast?_append, Option.mem_def.mp hd]
    rfl

theorem isTrimmed_cons_append {c d : Char} (hc : Text.isBlank c = false)
    (hd : Text.isBlank d = false) (m : List Char) : IsTrimmed (c :: (m ++ [d])) := by
  refine ⟨⟨c, rfl, hc⟩, ⟨d, ?_, hd⟩⟩
  rw [List.getLast?_cons, List.getLast?_append]
  rfl

theorem IsFreeWord.isTrimmed {w : List Char} (h : IsFreeWord w) : IsTrimmed w := by
  refine ⟨⟨w.head h.1, List.head?_eq_some_head h.1, ?_⟩,
    ⟨w.getLast h.1, List.getLast?_eq_some_getLast h.1, ?_⟩⟩
  · exact not_isBlank_of_isIdentifierChar (h.2.1 _ (List.head_mem h.1))
  · exact not_isBlank_of_isIdentifierChar (h.2.1 _ (List.getLast_mem h.1))

theorem trimStart_isSuffix (cs : List Char) : trimStart cs <:+ cs :=
  List.dropWhile_suffix Text.isBlank

theorem trimStart_append {ws cs : List Char} (hws : ∀ c ∈ ws, Text.isBlank c = true) :
    trimStart (ws ++ cs) = trimStart cs := List.dropWhile_append_of_pos hws

theorem trimStart_eq_self {cs : List Char} (h : IsTrimmed cs) (rest : List Char) :
    trimStart (cs ++ rest) = cs ++ rest := by
  obtain ⟨c, hc, hblank⟩ := h.1
  refine Scanning.dropWhile_eq_self fun d hd => ?_
  rw [List.head?_append, Option.mem_def.mp hc] at hd
  cases hd
  exact hblank

theorem trim_eq {ws cs ws' : List Char} (h : IsTrimmed cs) (hws : ∀ c ∈ ws, Text.isBlank c = true)
    (hws' : ∀ c ∈ ws', Text.isBlank c = true) : trim (ws ++ (cs ++ ws')) = cs := by
  obtain ⟨c, hc, hblank⟩ := h.2
  have hlast : cs.reverse.dropWhile Text.isBlank = cs.reverse := by
    refine Scanning.dropWhile_eq_self fun d hd => ?_
    rw [← List.getLast?_eq_head?_reverse, Option.mem_def.mp hc] at hd
    cases hd
    exact hblank
  rw [trim, trimStart_append hws, trimStart_eq_self h, trimEnd, List.reverse_append,
    List.dropWhile_append_of_pos fun c hc => hws' c (List.mem_reverse.mp hc), hlast,
    List.reverse_reverse]

/-! ## Layout -/

structure IsLaidOut (cs : List Char) : Prop where
  opens : Opens cs
  trimmed : IsTrimmed cs
  balanced : Balanced cs

theorem IsFreeWord.isLaidOut {w : List Char} (h : IsFreeWord w) : IsLaidOut w where
  opens := by
    have hopens : Opens (w ++ []) := .word h (by simp)
    simpa using hopens
  trimmed := h.isTrimmed
  balanced := h.grouped.balanced

theorem isLaidOut_bracketed {cs : List Char} (h : Balanced cs) : IsLaidOut (bracketed cs) where
  opens := .mark (.inl rfl)
  trimmed := isTrimmed_cons_append rfl rfl cs
  balanced := .bracketed h rfl

theorem IsLaidOut.append {a b m : List Char} (ha : IsLaidOut a)
    (hm : ∀ c ∈ (m ++ b).head?, isIdentifierChar c = false) (hbalanced : Balanced m)
    (hb : IsTrimmed b ∧ Balanced b) : IsLaidOut (a ++ (m ++ b)) where
  opens := ha.opens.append hm
  trimmed := ha.trimmed.append hb.1 m
  balanced := ha.balanced.append (hbalanced.append hb.2)

theorem IsLaidOut.within {e : Expression} {text : List Char} (h : IsLaidOut text) (level : Nat) :
    IsLaidOut (e.within level text) := by
  unfold Expression.within
  split
  · exact isLaidOut_bracketed h.balanced
  · exact h

/-- A style that writes operands with a layout as an expression with a layout. -/
structure Style.IsSound (s : Style) : Prop where
  not {a : List Char} : IsLaidOut a → IsLaidOut (s.not a)
  and {a b : List Char} : IsLaidOut a → IsLaidOut b → IsLaidOut (s.and a b)
  or {a b : List Char} : IsLaidOut a → IsLaidOut b → IsLaidOut (s.or a b)
  cond {c a b : List Char} : IsLaidOut c → IsLaidOut a → IsLaidOut b → IsLaidOut (s.cond c a b)
  comma (e : Expression) : Balanced (s.comma e)

section

variable {s : Style}

theorem balanced_writeRest (hs : s.IsSound) {es : List Expression}
    (hes : ∀ e ∈ es, IsLaidOut (e.write s)) : Balanced (writeRest s es) := by
  induction es with
  | nil => exact .nil _
  | cons e es ih =>
    obtain ⟨he, hes⟩ := List.forall_mem_cons.mp hes
    rw [writeRest]
    exact (hs.comma e).append (he.balanced.append (ih hes))

theorem balanced_writeItems (hs : s.IsSound) {es : List Expression}
    (hes : ∀ e ∈ es, IsLaidOut (e.write s)) : Balanced (writeItems s es) := by
  cases es with
  | nil => exact .nil _
  | cons e es =>
    obtain ⟨he, hes⟩ := List.forall_mem_cons.mp hes
    rw [writeItems]
    exact he.balanced.append (balanced_writeRest hs hes)

theorem isLaidOut_write (hs : s.IsSound) (e : Expression) : IsLaidOut (e.write s) := by
  induction e using Expression.induct with
  | atom a => exact a.isFreeWord.isLaidOut
  | not e ih => exact hs.not (ih.within 3)
  | and a b iha ihb => exact hs.and (iha.within 2) (ihb.within 3)
  | or a b iha ihb => exact hs.or (iha.within 1) (ihb.within 2)
  | cond c a b ihc iha ihb => exact hs.cond (ihc.within 1) iha ihb
  | call f args ihf ihargs =>
    have hargs := isLaidOut_bracketed (balanced_writeItems hs ihargs)
    exact (ihf.within 4).append (m := []) (fun c hc => by cases hc; rfl) (.nil _)
      ⟨hargs.trimmed, hargs.balanced⟩
  | array items ih =>
    exact ⟨.mark (.inr (.inl rfl)), isTrimmed_cons_append rfl rfl _,
      .bracketed (balanced_writeItems hs ih) rfl⟩

theorem balanced_items (hs : s.IsSound) (es : List Expression) : Balanced (writeItems s es) :=
  balanced_writeItems hs fun e _ => isLaidOut_write hs e

/-- The text of an operand that binds as tightly as can be: outside its groups it has only
characters of words. -/
theorem grouped_write (hs : s.IsSound) {e : Expression} (h : 4 ≤ e.level) :
    Grouped isIdentifierChar (e.write s) := by
  induction e using Expression.induct with
  | atom a => exact a.isFreeWord.grouped
  | call f args ihf _ =>
    refine Grouped.append ?_ (.bracketed (balanced_items hs args) rfl)
    rcases exists_within f 4 (f.write s) with ⟨-, hf⟩ | ⟨hlevel, hf⟩
    · rw [hf]
      exact .bracketed (isLaidOut_write hs f).balanced rfl
    · rw [hf]
      exact ihf hlevel
  | array items _ => exact .bracketed (balanced_items hs items) rfl
  | _ => simp [Expression.level] at h

end

/-! ## The styles -/

theorem balanced_plain {cs : List Char} (h : cs.all (fun c => !isBracket c) = true) :
    Balanced cs := .of_all (by simpa using h)

theorem isLaidOut_not {a : List Char} (h : Balanced a) : IsLaidOut (scriptStyle.not a) where
  opens := .mark (.inr (.inr (.inl rfl)))
  trimmed := isTrimmed_cons_append rfl rfl _
  balanced := by
    have htruthy : Balanced "!truthy".toList := balanced_plain (by decide)
    exact htruthy.append (.bracketed h rfl)

theorem isSound_formulaStyle : formulaStyle.IsSound where
  not ha := ⟨.mark (.inr (.inr (.inl rfl))), ⟨⟨'!', rfl, rfl⟩, by
    obtain ⟨c, hc, hblank⟩ := ha.trimmed.2
    exact ⟨c, by rw [formulaStyle, List.getLast?_cons, Option.mem_def.mp hc]; rfl, hblank⟩⟩,
    .plain rfl rfl rfl ha.balanced⟩
  and ha hb := ha.append (fun c hc => by cases hc; rfl) (balanced_plain (by decide))
    ⟨hb.trimmed, hb.balanced⟩
  or ha hb := ha.append (fun c hc => by cases hc; rfl) (balanced_plain (by decide))
    ⟨hb.trimmed, hb.balanced⟩
  cond hc ha hb := by
    have hbranches := ha.append (m := " : ".toList) (fun c hc => by cases hc; rfl)
      (balanced_plain (by decide)) ⟨hb.trimmed, hb.balanced⟩
    exact hc.append (fun c hc => by cases hc; rfl) (balanced_plain (by decide))
      ⟨hbranches.trimmed, hbranches.balanced⟩
  comma _ := by
    change Balanced ", ".toList
    exact balanced_plain (by decide)

end FormulaSheet.Desugaring
