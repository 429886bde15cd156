import FormulaSheet.Proofs.Desugaring.Negation
import FormulaSheet.Proofs.Desugaring.Placeholders
import Mathlib.Data.List.TakeWhile
import Mathlib.Data.Option.Basic

/-!
Desugaring words, marks and negations leaves the placeholders in the code, in their order. A word or
mark gives way to clean text and has nothing of a placeholder in it; the operand of a negation stops
where no placeholder goes on.
-/

namespace FormulaSheet.Desugaring

variable {i j k : Nat} {cs rest : List Char} {c : Char}

/-! ## Words and marks -/

/-- What is left of a text after a stretch without placeholders. -/
def Passes (cs rest : List Char) : Prop := ∃ taken, '@' ∉ taken ∧ cs = taken ++ rest

theorem Passes.refl (cs : List Char) : Passes cs cs := ⟨[], by simp, rfl⟩

theorem Passes.trans {mid : List Char} (h : Passes cs mid) (h' : Passes mid rest) :
    Passes cs rest := by
  obtain ⟨a, ha, rfl⟩ := h
  obtain ⟨b, hb, rfl⟩ := h'
  exact ⟨a ++ b, by simp [ha, hb], by simp⟩

theorem passes_cons (hc : c ≠ '@') (cs : List Char) : Passes (c :: cs) cs :=
  ⟨[c], by simpa using Ne.symm hc, rfl⟩

theorem isClean_blanks (h : ∀ c ∈ cs, Text.isBlank c = true) : IsClean cs :=
  isClean_of_forall (by decide) (by decide) h

theorem passes_trimStart (cs : List Char) : Passes cs (trimStart cs) :=
  ⟨cs.takeWhile Text.isBlank, (isClean_blanks fun _ => List.mem_takeWhile_imp).not_mem,
    List.takeWhile_append_dropWhile.symm⟩

theorem passes_after? {p : List Char} (hp : '@' ∉ p) (h : after? p cs = some rest) :
    Passes cs rest := ⟨p, hp, after?_eq_some_iff.mp h⟩

theorem passes_afterPoint? (h : afterPoint? cs = some rest) : Passes cs rest := by
  unfold afterPoint? at h
  split at h
  · rename_i more htrim
    cases h
    have hpoint : Passes (trimStart cs) more := htrim ▸ passes_cons (by decide) more
    exact (passes_trimStart cs).trans (hpoint.trans (passes_trimStart more))
  · cases h

theorem not_isSlotChar_of_isAsciiLetter (h : Text.isAsciiLetter c = true) :
    isSlotChar c = false := by
  simp only [Text.isAsciiLetter, Bool.or_eq_true, Bool.and_eq_true, decide_eq_true_eq, Char.le_def,
    UInt32.le_iff_toNat_le] at h
  simp only [isSlotChar, Text.isAsciiDigit, Bool.or_eq_false_iff, Bool.and_eq_false_iff,
    decide_eq_false_iff_not, beq_eq_false_iff_ne, Char.le_def, UInt32.le_iff_toNat_le]
  refine ⟨?_, .inr ?_⟩
  · rintro rfl
    simp at h
  · simp at h ⊢
    omega

/-- Names are clean and begin with no character of placeholders. -/
theorem isClean_identifier? {name : List Char} (h : identifier? cs = some (name, rest)) :
    IsClean name ∧ cs = name ++ rest ∧ ∃ c w, name = c :: w ∧ isSlotChar c = false := by
  cases cs with
  | nil => simp [identifier?] at h
  | cons c cs =>
    simp only [identifier?, List.span_eq_takeWhile_dropWhile] at h
    split at h
    · rename_i hstart
      cases h
      have hfirst : Text.isWord c = true ∧ isSlotChar c = false := by
        rcases Bool.or_eq_true _ _ ▸ hstart with hletter | hunderscore
        · refine ⟨isWord_of_isIdentifierChar ?_, not_isSlotChar_of_isAsciiLetter hletter⟩
          simp [isIdentifierChar, Text.isAsciiAlphanumeric, hletter]
        · obtain rfl := beq_iff_eq.mp hunderscore
          decide
      have hword : ∀ d ∈ c :: cs.takeWhile Text.isWord, Text.isWord d = true :=
        List.forall_mem_cons.mpr ⟨hfirst.1, fun d hd => List.mem_takeWhile_imp hd⟩
      refine ⟨isClean_of_forall (by decide) (by decide) hword, ?_, c, _, rfl, hfirst.2⟩
      rw [List.cons_append, List.takeWhile_append_dropWhile]
    · cases h

theorem passes_identifier? {name : List Char} (h : identifier? cs = some (name, rest)) :
    Passes cs rest := by
  obtain ⟨hclean, rfl, -⟩ := isClean_identifier? h
  exact ⟨name, hclean.not_mem, rfl⟩

theorem isClean_moreParameters (fuel : Nat) (cs : List Char) :
    (∀ name ∈ (moreParameters fuel cs).1, IsClean name) ∧
      Passes cs (moreParameters fuel cs).2 := by
  induction fuel generalizing cs with
  | zero => exact ⟨by simp [moreParameters], .refl cs⟩
  | succ fuel ih =>
    unfold moreParameters
    split
    · rename_i more htrim
      have hcomma : Passes cs more :=
        (passes_trimStart cs).trans (htrim ▸ passes_cons (by decide) more)
      split
      · rename_i name rest hname
        obtain ⟨hnames, hrest⟩ := ih rest
        refine ⟨List.forall_mem_cons.mpr ⟨(isClean_identifier? hname).1, hnames⟩, ?_⟩
        exact hcomma.trans ((passes_trimStart more).trans ((passes_identifier? hname).trans hrest))
      · exact ⟨by simp, .refl cs⟩
    · exact ⟨by simp, .refl cs⟩

theorem isClean_parameters (cs : List Char) :
    (∀ name ∈ (parameters cs).1, IsClean name) ∧ Passes cs (parameters cs).2 := by
  unfold parameters
  split
  · rename_i name rest hname
    obtain ⟨hnames, hrest⟩ := isClean_moreParameters rest.length rest
    refine ⟨List.forall_mem_cons.mpr ⟨(isClean_identifier? hname).1, hnames⟩, ?_⟩
    exact (passes_trimStart cs).trans ((passes_identifier? hname).trans hrest)
  · exact ⟨by simp, .refl cs⟩

/-- Clean text in the place of `n` characters that begin with none of placeholders and hold none; a
character before them can be kept. -/
def IsRewritten (cs new : List Char) (n : Nat) : Prop :=
  ∃ kept c mid rest put, cs = kept ++ c :: mid ∧ isSlotChar c = false ∧ Passes mid rest ∧
    new = kept ++ put ∧ IsClean put ∧ n = cs.length - rest.length

/-- A rule that only rewrites such places. -/
def Rewrites (rule : Rule) : Prop :=
  ∀ ⦃before : Option Char⦄ ⦃cs new : List Char⦄ ⦃n : Nat⦄, rule before cs = some (new, n) →
    IsRewritten cs new n

theorem Rewrites.keeps {rule : Rule} (h : Rewrites rule) : Keeps rule := by
  intro before cs new n hrule
  obtain ⟨kept, c, mid, rest, put, rfl, hc, ⟨taken, htaken, rfl⟩, rfl, hput, rfl⟩ := h hrule
  have hlength : (kept ++ c :: (taken ++ rest)).length - rest.length =
      (kept ++ c :: taken).length := by
    simp only [List.length_append, List.length_cons]
    omega
  have hdrop : (kept ++ c :: (taken ++ rest)).drop (kept ++ c :: taken).length = rest := by
    rw [← List.cons_append, ← List.append_assoc, List.drop_left]
  rw [hlength, hdrop]
  refine ⟨by rw [List.length_append, List.length_cons]; omega, fun out i j hholds => ?_⟩
  rw [← List.append_assoc] at hholds
  simpa using hholds.swap hc htaken hput

theorem Rewrites.orElse {r r' : Rule} (h : Rewrites r) (h' : Rewrites r') :
    Rewrites fun before cs => r before cs <|> r' before cs := by
  intro before cs new n hrule
  cases hr : r before cs with
  | some found => exact h (hr.trans (by simpa [hr] using hrule))
  | none => exact h' (by simpa [hr] using hrule)

/-- Text with which a rewritten place can begin, and what can be put there. -/
def IsReplaceable (old new : List Char) : Prop :=
  old.head?.any isSlotChar = false ∧ old ≠ [] ∧ '@' ∉ old ∧ IsClean new

instance (old new : List Char) : Decidable (IsReplaceable old new) :=
  inferInstanceAs (Decidable (_ ∧ _ ∧ _ ∧ _))

theorem IsReplaceable.isRewritten {old mid put : List Char} (hold : IsReplaceable old put)
    (hmid : after? old cs = some mid) (hrest : Passes mid rest) (kept : List Char) :
    IsRewritten (kept ++ cs) (kept ++ put) ((kept ++ cs).length - rest.length) := by
  obtain ⟨hhead, hne, hat, hput⟩ := hold
  obtain ⟨c, w, rfl⟩ := List.exists_cons_of_ne_nil hne
  obtain rfl := after?_eq_some_iff.mp hmid
  have hword : Passes (w ++ mid) mid := ⟨w, fun h => hat (List.mem_cons_of_mem c h), rfl⟩
  exact ⟨kept, c, w ++ mid, rest, put, rfl, hhead, hword.trans hrest, rfl, hput, rfl⟩

theorem IsReplaceable.isRewritten_whole {old new : List Char} (hold : IsReplaceable old new)
    (h : after? old cs = some rest) : IsRewritten cs new old.length := by
  have hrewritten := hold.isRewritten h (.refl rest) []
  obtain rfl := after?_eq_some_iff.mp h
  simpa using hrewritten

theorem rewrites_replaceText {old new : List Char} (hold : IsReplaceable old new) :
    Rewrites fun _ cs => (after? old cs).map fun _ => (new, old.length) := by
  intro before cs new' n hrule
  obtain ⟨rest, hrest, heq⟩ := Option.map_eq_some_iff.mp hrule
  cases heq
  exact hold.isRewritten_whole hrest

theorem rewrites_wordRule {word new : List Char} (hword : IsReplaceable word new) :
    Rewrites (wordRule word new) := by
  intro before cs new' n hrule
  simp only [wordRule, Option.ite_none_right_eq_some, Option.bind_eq_some_iff] at hrule
  obtain ⟨-, rest, hrest, -, heq⟩ := hrule
  cases heq
  exact hword.isRewritten_whole hrest

theorem rewrites_logRule : Rewrites logRule := by
  intro before cs new n hrule
  simp only [logRule, Option.ite_none_right_eq_some, Option.bind_eq_bind,
    Option.bind_eq_some_iff] at hrule
  obtain ⟨-, afterConsole, hconsole, point, hpoint, afterLog, hlog, rest, hopen, heq⟩ := hrule
  cases heq
  have hpass : Passes afterConsole rest :=
    (passes_afterPoint? hpoint).trans ((passes_after? (by decide) hlog).trans
      ((passes_trimStart afterLog).trans (passes_after? (by decide) hopen)))
  exact IsReplaceable.isRewritten (by decide) hconsole hpass []

theorem rewrites_mathRule : Rewrites mathRule := by
  intro before cs new n hrule
  simp only [mathRule, Option.ite_none_right_eq_some, Option.bind_eq_bind,
    Option.bind_eq_some_iff] at hrule
  obtain ⟨-, afterMath, hmath, rest, hpoint, heq⟩ := hrule
  cases heq
  exact IsReplaceable.isRewritten (by decide) hmath (passes_afterPoint? hpoint) []

theorem rewrites_aggregateRule : Rewrites aggregateRule := by
  intro before cs new n hrule
  have hname : ∀ {kept cs new : List Char} {left : Nat},
      ((after? ['_'] cs).bind fun rest => (afterPoint? rest).bind fun rest =>
        some (kept ++ "agg::".toList, rest.length)) = some (new, left) →
      IsRewritten (kept ++ cs) new ((kept ++ cs).length - left) := by
    intro kept cs new left h
    simp only [Option.bind_eq_some_iff] at h
    obtain ⟨afterName, hafter, rest, hpoint, heq⟩ := h
    cases heq
    exact IsReplaceable.isRewritten (by decide) hafter (passes_afterPoint? hpoint) kept
  obtain ⟨⟨new', left⟩, hplace, heq⟩ := Option.map_eq_some_iff.mp hrule
  cases heq
  rcases (Option.orElse_eq_some _ _ _).mp hplace with hstart | ⟨-, hlater⟩
  · exact hname (Option.ite_none_right_eq_some.mp hstart).2
  · cases cs with
    | nil => cases hlater
    | cons c cs => exact hname (Option.ite_none_left_eq_some.mp hlater).2

theorem isClean_intercalate {sep : List Char} {parts : List (List Char)} (hsep : IsClean sep)
    (hparts : ∀ part ∈ parts, IsClean part) : IsClean (List.intercalate sep parts) := by
  induction parts with
  | nil => simp [List.intercalate, IsClean]
  | cons part parts ih =>
    obtain ⟨hpart, hrest⟩ := List.forall_mem_cons.mp hparts
    cases parts with
    | nil => simpa [List.intercalate] using hpart
    | cons next parts =>
      rw [List.intercalate_cons_cons]
      exact (hpart.append hsep).append (ih hrest)

theorem rewrites_arrowListRule : Rewrites arrowListRule := by
  intro before cs new n hrule
  simp only [arrowListRule, Option.bind_eq_bind, Option.bind_eq_some_iff] at hrule
  obtain ⟨inside, hopen, afterClose, hclose, rest, harrow, heq⟩ := hrule
  cases heq
  obtain ⟨hnames, hparameters⟩ := isClean_parameters inside
  have hpass : Passes inside rest :=
    hparameters.trans ((passes_trimStart _).trans ((passes_after? (by decide) hclose).trans
      ((passes_trimStart afterClose).trans (passes_after? (by decide) harrow))))
  have hbar : IsClean ['|'] := by decide
  have hcomma : IsClean [',', ' '] := by decide
  have hlist := isClean_intercalate hcomma hnames
  exact IsReplaceable.isRewritten ⟨by decide, by decide, by decide, (hbar.append hlist).append hbar⟩
    hopen hpass []

theorem rewrites_arrowRule : Rewrites arrowRule := by
  intro before cs new n hrule
  simp only [arrowRule, Option.ite_none_right_eq_some, Option.bind_eq_bind,
    Option.bind_eq_some_iff] at hrule
  obtain ⟨-, ⟨name, afterName⟩, hname, rest, harrow, heq⟩ := hrule
  cases heq
  obtain ⟨hclean, hcs, c, w, rfl, hc⟩ := isClean_identifier? hname
  have hbar : IsClean ['|'] := by decide
  have hput : IsReplaceable (c :: w) ('|' :: (c :: w) ++ ['|']) :=
    ⟨hc, by simp, hclean.not_mem,
      (hbar.append hclean).append hbar⟩
  exact hput.isRewritten (after?_eq_some_iff.mpr hcs)
    ((passes_trimStart afterName).trans (passes_after? (by decide) harrow)) []

theorem Rewrites.preserves {rule : Rule} (h : Rewrites rule) : Preserves (replaceAll rule) :=
  h.keeps.replaceAll

theorem preserves_replaceText {old new : List Char} (hold : IsReplaceable old new) :
    Preserves (replaceText old new) :=
  Rewrites.preserves (rewrites_replaceText hold)

theorem preserves_desugarWords : Preserves desugarWords := by
  intro i j cs h
  have hnull : Rewrites fun before cs => wordRule "null".toList ['(', ')'] before cs <|>
      wordRule "undefined".toList ['(', ')'] before cs :=
    Rewrites.orElse (rewrites_wordRule (by decide)) (rewrites_wordRule (by decide))
  have hvar : Rewrites (wordRule "var".toList "let".toList) := rewrites_wordRule (by decide)
  have hdiffers : Preserves (replaceText ['!', '=', '='] ['!', '=']) :=
    preserves_replaceText (by decide)
  have hequals : Preserves (replaceText ['=', '=', '='] ['=', '=']) :=
    preserves_replaceText (by decide)
  have hwords := hvar.preserves (hnull.preserves (hequals (hdiffers h)))
  have hnames := rewrites_aggregateRule.preserves (rewrites_mathRule.preserves
    (rewrites_logRule.preserves hwords))
  exact rewrites_arrowRule.preserves (rewrites_arrowListRule.preserves hnames)

/-! ## Blanks and brackets -/

theorem not_isSlotChar_of_isBlank (h : Text.isBlank c = true) : isSlotChar c = false :=
  not_isSlotChar (by decide) (fun _ => not_isBlank_of_isIdentifierChar) h

theorem not_isSlotChar_of_isCloser (h : isCloser c = true) : isSlotChar c = false :=
  not_isSlotChar (by decide) (fun _ => not_isCloser_of_isIdentifierChar) h

theorem trimEnd_append_trailingBlanks (cs : List Char) :
    trimEnd cs ++ (trailingBlanks cs).reverse = cs := by
  rw [trimEnd, trailingBlanks, ← List.reverse_append, List.takeWhile_append_dropWhile,
    List.reverse_reverse]

theorem isBlank_of_mem_trailingBlanks (h : c ∈ trailingBlanks cs) : Text.isBlank c = true :=
  List.mem_takeWhile_imp h

theorem preserves_trim : Preserves trim := by
  intro i j cs h
  obtain ⟨taken, htaken, hcs⟩ := passes_trimStart cs
  have hstart : Holding i j (trimStart cs) := (hcs ▸ h).drop htaken
  have hblanks : ∀ c ∈ (trailingBlanks (trimStart cs)).reverse, Text.isBlank c = true :=
    fun c hc => isBlank_of_mem_trailingBlanks (List.mem_reverse.mp hc)
  rw [← trimEnd_append_trailingBlanks (trimStart cs)] at hstart
  obtain ⟨k, hend, hrest⟩ := hstart.split
    (.inr fun c hc => not_isSlotChar_of_isBlank (hblanks c (List.mem_of_mem_head? hc)))
  rw [hrest.eq_of_not_mem (isClean_blanks hblanks).not_mem] at hend
  exact hend

theorem splitClosed?_eq_some {closers inside : List Char} {d : Char}
    (h : splitClosed? closers cs = some (inside, d, rest)) :
    cs = inside ++ d :: rest ∧ isCloser d = true := by
  induction cs generalizing closers inside with
  | nil => cases h
  | cons c cs ih =>
    have hmore : ∀ {closers}, ((splitClosed? closers cs).map fun p => (c :: p.1, p.2)) =
        some (inside, d, rest) → c :: cs = inside ++ d :: rest ∧ isCloser d = true := by
      intro closers hmap
      obtain ⟨⟨a, d, b⟩, hsplit, heq⟩ := Option.map_eq_some_iff.mp hmap
      cases heq
      obtain ⟨rfl, hd⟩ := ih hsplit
      exact ⟨rfl, hd⟩
    simp only [splitClosed?] at h
    split at h
    · exact hmore h
    · split at h
      · rename_i hcloser
        split at h
        · cases h
        · obtain ⟨-, heq⟩ := Option.ite_none_right_eq_some.mp h
          cases heq
          exact ⟨rfl, hcloser⟩
        · exact hmore (Option.ite_none_right_eq_some.mp h).2
      · exact hmore h

/-- The text of a bracket group. -/
theorem group?_eq_some {inside : List Char} {d : Char} (h : group? cs = some (inside, d, rest)) :
    ∃ o, closer? o ≠ none ∧ cs = o :: (inside ++ d :: rest) ∧ isCloser d = true := by
  cases cs with
  | nil => cases h
  | cons o cs =>
    obtain ⟨e, he, hsplit⟩ := Option.bind_eq_some_iff.mp h
    obtain ⟨rfl, hd⟩ := splitClosed?_eq_some hsplit
    exact ⟨o, by simp [he], rfl, hd⟩

/-! ## Negations -/

/-- Whether no placeholder goes on after some characters. -/
def StopsAt (n : Nat) (cs : List Char) : Prop := ∀ c ∈ (cs.drop n).head?, isSlotChar c = false

theorem StopsAt.append {n : Nat} (h : StopsAt n cs) (a : List Char) :
    StopsAt (a.length + n) (a ++ cs) := by
  rwa [StopsAt, List.drop_length_add_append]

/-- A path takes in placeholders whole, since their characters go on with it. -/
theorem stopsAt_pathLength {fuel : Nat} (hfuel : cs.length ≤ fuel) :
    StopsAt (pathLength fuel cs) cs := by
  induction fuel generalizing cs with
  | zero =>
    obtain rfl := List.eq_nil_of_length_eq_zero (Nat.le_zero.mp hfuel)
    simp [StopsAt]
  | succ fuel ih =>
    cases cs with
    | nil => simp [StopsAt]
    | cons c cs =>
      have hcs : cs.length ≤ fuel := by simpa using hfuel
      unfold pathLength
      split
      · split
        · rename_i inside d rest hgroup
          obtain ⟨o, -, htext, -⟩ := group?_eq_some hgroup
          obtain ⟨rfl, rfl⟩ := List.cons.inj htext
          have hrest : rest.length ≤ fuel := by
            rw [List.length_append, List.length_cons] at hcs
            omega
          have htext : c :: (inside ++ d :: rest) = (c :: inside ++ [d]) ++ rest := by simp
          have hlength : inside.length + 2 = (c :: inside ++ [d]).length := by simp
          rw [htext, hlength]
          exact (ih hrest).append _
        · -- a group that is not closed takes in the rest of the text
          simp [StopsAt]
      · split
        · exact (ih hcs).append [c]
        · rename_i hplain
          split
          · rename_i rest _
            have hrest : rest.length ≤ fuel := by
              rw [List.length_cons] at hcs
              omega
            exact (ih hrest).append [':', ':']
          · intro e he
            cases he
            exact not_isSlotChar (p := fun c => !(isNameChar c || c == '@' || c == '.')) (by decide)
              (fun c hc => by simp [isNameChar_of_isIdentifierChar hc]) (by simpa using hplain)

/-- Operands do not end within a placeholder. -/
theorem stopsAt_operandLength (cs : List Char) : StopsAt (operandLength cs) cs := by
  induction cs with
  | nil => simp [StopsAt]
  | cons c cs ih =>
    unfold operandLength
    split
    · rename_i hblank
      split
      · intro d hd
        cases hd
        exact not_isSlotChar_of_isBlank hblank
      · exact ih
    · split
      · exact ih.append [c]
      · exact stopsAt_pathLength (by simp)

theorem Preserves.keeps_negationRule {inner : List Char → List Char} (h : Preserves inner) :
    Keeps (negationRule inner) := by
  intro before cs new n hrule
  unfold negationRule at hrule
  split at hrule
  · rename_i rest
    simp only [Option.ite_none_right_eq_some, Option.ite_none_left_eq_some] at hrule
    obtain ⟨-, -, heq⟩ := hrule
    cases heq
    refine ⟨by omega, fun out i j hholds => ?_⟩
    obtain ⟨k, hout, -, hrest⟩ := hholds.split_cons (by decide)
    rw [← List.take_append_drop (operandLength rest) rest] at hrest
    obtain ⟨l, hoperand, hrest⟩ := hrest.split (.inr (stopsAt_operandLength rest))
    have hopen : Holding k k "!truthy(".toList := holding_of_isClean (by decide) k
    have hclose : Holding l l [')'] := holding_of_isClean (by decide) l
    exact hout.append (((hopen.append (h (preserves_trim hoperand))).append hclose).append hrest)
  · cases hrule

theorem preserves_desugarNegations (fuel : Nat) : Preserves (desugarNegations fuel) := by
  induction fuel with
  | zero => exact fun _ _ _ h => h
  | succ fuel ih => exact ih.keeps_negationRule.replaceAll

end FormulaSheet.Desugaring
