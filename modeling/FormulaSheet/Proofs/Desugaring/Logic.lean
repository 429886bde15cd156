import FormulaSheet.Proofs.Desugaring.Outer

/-!
Logic outside groups: a text without conditionals outside its groups becomes the blocks of its
expression. It has no head, `||` splits it into its disjuncts and `&&` these into conjuncts, and
both kinds of chains are joined from the left. A key is no head either, so that it goes into the
first part of a chain.
-/

namespace FormulaSheet.Desugaring

/-! ## Characters and spaces -/

abbrev spaces (n : Nat) : List Char := List.replicate n ' '

theorem isBlank_of_mem_spaces {n : Nat} {c : Char} (h : c ∈ spaces n) : Text.isBlank c = true := by
  rw [List.eq_of_mem_replicate h]
  rfl

theorem trim_spaces {cs : List Char} (h : IsTrimmed cs) (m n : Nat) :
    trim (spaces m ++ (cs ++ spaces n)) = cs :=
  trim_eq h (fun _ => isBlank_of_mem_spaces) (fun _ => isBlank_of_mem_spaces)

theorem trailingBlanks_spaces {cs : List Char} (h : IsTrimmed cs) (m n : Nat) :
    trailingBlanks (spaces m ++ (cs ++ spaces n)) = spaces n := by
  obtain ⟨c, hc, hblank⟩ := h.2
  rw [List.getLast?_eq_head?_reverse] at hc
  have hreverse : (spaces m ++ (cs ++ spaces n)).reverse =
      spaces n ++ (cs.reverse ++ spaces m) := by simp
  rw [trailingBlanks, hreverse, List.takeWhile_append_of_pos fun c hc => isBlank_of_mem_spaces hc]
  cases hcs : cs.reverse with
  | nil => simp [hcs] at hc
  | cons d ds =>
    obtain rfl : d = c := by simpa [hcs] using hc
    simp [hblank]

theorem grouped_spaces {p : Char → Bool} (hp : p ' ' = true) (n : Nat) : Grouped p (spaces n) := by
  refine .of_forall fun c hc => ?_
  rw [List.eq_of_mem_replicate hc]
  exact ⟨rfl, rfl, hp⟩

theorem ne_of_isOuterChar {level : Nat} {c x : Char} (h : isOuterChar level c = true)
    (hx : isOuterChar level x = false) : c ≠ x := by
  rintro rfl
  exact absurd (h.symm.trans hx) (by decide)

theorem ne_of_isPartChar {level : Nat} {c x : Char} (h : isPartChar level c = true)
    (hx : isPartChar level x = false) : c ≠ x := by
  rintro rfl
  exact absurd (h.symm.trans hx) (by decide)

theorem grouped_outer_of_le {level : Nat} {e : Expression} (h : level ≤ e.level) :
    Grouped (isOuterChar level) e.outer := (grouped_outer e).mono (isOuterChar_mono h)

theorem not_blank_of_isTrimmed {cs : List Char} (h : IsTrimmed cs) :
    cs.all Text.isBlank = false := by
  obtain ⟨c, hc, hblank⟩ := h.1
  exact List.all_eq_false.mpr ⟨c, List.mem_of_mem_head? hc, by simp [hblank]⟩

/-! ## Heads -/

theorem Opens.append_spaces {cs : List Char} (h : Opens cs) (n : Nat) : Opens (cs ++ spaces n) := by
  refine h.append fun c hc => ?_
  rw [List.eq_of_mem_replicate (List.mem_of_mem_head? hc)]
  rfl

theorem barsLength?_eq_none {cs : List Char} (h : IsLaidOut cs) (m n : Nat) :
    barsLength? (spaces m ++ (cs ++ spaces n)) = none := by
  unfold barsLength?
  rw [trimStart_append fun _ => isBlank_of_mem_spaces, trimStart_eq_self h.trimmed]
  split
  · rename_i hbar
    obtain ⟨c, hc, hopens⟩ := (h.opens.append_spaces n).head
    rw [hbar] at hc
    cases hc
    exact absurd hopens (by decide)
  · rfl

theorem returnLength?_eq_none {cs : List Char} (h : IsLaidOut cs) (m n : Nat) :
    returnLength? (spaces m ++ (cs ++ spaces n)) = none := by
  unfold returnLength?
  rw [trimStart_append fun _ => isBlank_of_mem_spaces, trimStart_eq_self h.trimmed]
  cases hafter : after? "return".toList (cs ++ spaces n) with
  | none => rfl
  | some rest =>
    obtain ⟨c, hc, hchar⟩ := (h.opens.append_spaces n).after? (by decide) hafter
    simp [Option.mem_def.mp hc, not_isBlank_of_isIdentifierChar hchar]

/-- A text in which every bar outside the groups is one of two, so that no closure ends there. -/
def HasPairedBars (cs : List Char) : Prop := ∀ rest,
  (∀ here, lastBarFrom 0 here none rest = none) →
    ∀ here, lastBarFrom 0 here none (cs ++ rest) = none

theorem Grouped.hasPairedBars {cs : List Char} (h : Grouped (isPartChar 3) cs) :
    HasPairedBars cs := by
  intro rest hrest here
  rw [h.lastBarFrom fun c hc => ⟨ne_of_isPartChar hc (by decide), ne_of_isPartChar hc (by decide)⟩]
  exact hrest _

theorem HasPairedBars.append {a b : List Char} (ha : HasPairedBars a) (hb : HasPairedBars b) :
    HasPairedBars (a ++ b) := by
  intro rest hrest here
  rw [List.append_assoc]
  exact ha _ (hb rest hrest) here

theorem hasPairedBars_operand {e : Expression} (h : 1 ≤ e.level → HasPairedBars e.outer)
    {level : Nat} (hlevel : 1 ≤ level) : HasPairedBars (e.operand level e.outer) := by
  rcases exists_operand e level e.outer with ⟨-, he, -⟩ | ⟨hle, he, -⟩
  · rw [he]
    exact Grouped.hasPairedBars (.bracketed (isLaidOut_write isSound_tightStyle e).balanced rfl)
  · rw [he]
    exact h (Nat.le_trans hlevel hle)

theorem hasPairedBars_single {e : Expression} (h : 3 ≤ e.level) : HasPairedBars e.outer :=
  (isKey_nil.grouped_keyed (Nat.le_refl 3) h).hasPairedBars

theorem hasPairedBars_outer {e : Expression} (h : 1 ≤ e.level) : HasPairedBars e.outer := by
  -- behind the left operand of `&&` or `||` the scan ends
  induction e using Expression.induct with
  | and a b iha _ =>
    intro rest _ here
    rw [Expression.outer, formulaStyle, List.append_assoc]
    exact hasPairedBars_operand iha (Nat.le_succ 1) _ (fun _ => rfl) here
  | or a b iha _ =>
    intro rest _ here
    rw [Expression.outer, formulaStyle, List.append_assoc]
    exact hasPairedBars_operand iha (Nat.le_refl 1) _ (fun _ => rfl) here
  | cond => simp [Expression.level] at h
  | _ =>
    refine hasPairedBars_single ?_
    simp [Expression.level]

theorem splitHead_eq {cs : List Char} (h : headLength? cs = none) : splitHead cs = ([], cs) := by
  unfold splitHead
  cases cs.length with
  | zero => rfl
  | succ n => rw [splitHeadWith, h]

/-- What is known of a text without conditionals outside its groups. -/
structure IsHeadless (cs : List Char) : Prop where
  layout : IsLaidOut cs
  bars : HasPairedBars cs
  chars : Grouped (isPartChar 1) cs

theorem isHeadless_single {cs : List Char} (h : Grouped (isPartChar 3) cs) (hlayout : IsLaidOut cs) :
    IsHeadless cs := ⟨hlayout, h.hasPairedBars, h.mono (isPartChar_mono (by decide))⟩

theorem IsKey.isHeadless_outer {key : List Char} (hkey : IsKey key) {e : Expression}
    (h : 1 ≤ e.level) : IsHeadless (key ++ e.outer) :=
  ⟨hkey.isLaidOut_keyed e, hkey.chars.hasPairedBars.append (hasPairedBars_outer h),
    hkey.grouped_keyed (by decide) h⟩

theorem IsKey.isHeadless_operand {key : List Char} (hkey : IsKey key) (e : Expression) :
    IsHeadless (key ++ e.operand 1 e.outer) :=
  ⟨hkey.layout (isLaidOut_operand (isLaidOut_outer e) 1),
    hkey.chars.hasPairedBars.append (hasPairedBars_operand hasPairedBars_outer (Nat.le_refl 1)),
    hkey.grouped (by decide) (grouped_operand (grouped_outer e) (Nat.le_refl 1))⟩

theorem IsHeadless.splitHead {cs : List Char} (h : IsHeadless cs) (m n : Nat) :
    splitHead (spaces m ++ (cs ++ spaces n)) = ([], spaces m ++ (cs ++ spaces n)) := by
  have hspaces : ∀ here, lastBarFrom 0 here none (spaces n) = none := by
    intro here
    have hend := (grouped_spaces (p := isPartChar 3) rfl n).hasPairedBars [] (fun _ => rfl) here
    rwa [List.append_nil] at hend
  have hbars : lastBarFrom 0 0 none (spaces m ++ (cs ++ spaces n)) = none :=
    (grouped_spaces rfl m).hasPairedBars _ (h.bars _ hspaces) 0
  have hassignment : assignmentFrom? 0 [] (spaces m ++ (cs ++ spaces n)) = none := by
    refine Grouped.assignmentFrom? ((grouped_spaces rfl m).append
      (h.chars.append (grouped_spaces rfl n))) (fun c hc => ?_) []
    exact ne_of_isPartChar hc (by decide)
  refine splitHead_eq ?_
  rw [headLength?, barsLength?_eq_none h.layout, hbars, returnLength?_eq_none h.layout, hassignment]
  rfl

/-! ## Chains -/

/-- Splits a text into its conjuncts and joins them. -/
def conjunction (cs : List Char) : List Char := chain andBlock ((conjuncts cs).map trim)

/-- A text with a value: where a pair of marks and an operand follow, its parts are split off and
joined to the value. -/
def IsChain (mark : Char) (join : List Char → List Char → List Char)
    (f : List Char → List Char) (cs value : List Char) : Prop :=
  ∃ parts, parts ≠ [] ∧
    (∀ rest, splitPairs mark 0 [] (cs ++ ' ' :: mark :: mark :: rest) =
      parts ++ splitPairs mark 0 [] rest) ∧
    chain join (parts.map f) = value

theorem chain_snoc {join : List Char → List Char → List Char} {parts : List (List Char)}
    (h : parts ≠ []) (part : List Char) :
    chain join (parts ++ [part]) = join (chain join parts) part := by
  obtain ⟨first, parts, rfl⟩ := List.exists_cons_of_ne_nil h
  simp [chain]

/-- A mark of operators that does not stand alone among the characters of some kind. -/
structure IsMark (mark : Char) (p : Char → Bool) : Prop where
  absent : ∀ c, p c = true → c ≠ mark
  not_opener : isOpener mark = false
  not_space : ' ' ≠ mark

theorem isMark_and : IsMark '&' (isPartChar 3) :=
  ⟨fun _ h => ne_of_isPartChar h (by decide), rfl, by decide⟩

theorem isMark_or : IsMark '|' (isPartChar 2) :=
  ⟨fun _ h => ne_of_isPartChar h (by decide), rfl, by decide⟩

section

variable {mark : Char} {join : List Char → List Char → List Char} {f : List Char → List Char}
  {p : Char → Bool} {cs value b vb : List Char}

theorem Grouped.splitPairs_end (h : Grouped p cs) (hmark : IsMark mark p) :
    Desugaring.splitPairs mark 0 [] cs = [cs] := by
  have hend := h.splitPairs hmark.absent hmark.not_opener [] []
  rw [List.append_nil, List.append_nil] at hend
  simpa [Desugaring.splitPairs] using hend

theorem Grouped.splitPairs_operator (h : Grouped p cs) (hmark : IsMark mark p)
    (hcs : cs.all Text.isBlank = false) (rest : List Char) :
    Desugaring.splitPairs mark 0 [] (cs ++ ' ' :: mark :: mark :: rest) =
      (cs ++ [' ']) :: Desugaring.splitPairs mark 0 [] rest := by
  rw [h.splitPairs hmark.absent hmark.not_opener, List.append_nil, Desugaring.splitPairs,
    if_neg (by simp [hmark.not_space]), show depthAfter ' ' 0 = 0 from rfl, Desugaring.splitPairs,
    if_pos (by simp_all)]
  simp

theorem Grouped.isChain (h : Grouped p cs) (hmark : IsMark mark p)
    (hcs : cs.all Text.isBlank = false) (hvalue : f (cs ++ [' ']) = value) :
    IsChain mark join f cs value :=
  ⟨[cs ++ [' ']], by simp, h.splitPairs_operator hmark hcs, by simp [chain, hvalue]⟩

theorem IsChain.append (ha : IsChain mark join f cs value) (hb : Grouped p (' ' :: b))
    (hmark : IsMark mark p) (hblank : b.all Text.isBlank = false)
    (hvalue : f (' ' :: (b ++ [' '])) = vb) :
    IsChain mark join f (cs ++ ' ' :: mark :: mark :: ' ' :: b) (join value vb) := by
  obtain ⟨parts, hne, hparts, rfl⟩ := ha
  refine ⟨parts ++ [' ' :: (b ++ [' '])], by simp, fun rest => ?_, ?_⟩
  · have hlast := hb.splitPairs_operator hmark (by simp [hblank]) rest
    have hfirst := hparts (' ' :: b ++ ' ' :: mark :: mark :: rest)
    rw [hlast] at hfirst
    simpa using hfirst
  · rw [List.map_append, List.map_singleton, chain_snoc (by simpa using hne), hvalue]

theorem IsChain.parts (ha : IsChain mark join f cs value) (hb : Grouped p (' ' :: b))
    (hmark : IsMark mark p) (hvalue : f (' ' :: b) = vb) :
    2 ≤ (splitPairs mark 0 [] (cs ++ ' ' :: mark :: mark :: ' ' :: b)).length ∧
      chain join ((splitPairs mark 0 [] (cs ++ ' ' :: mark :: mark :: ' ' :: b)).map f) =
        join value vb := by
  obtain ⟨parts, hne, hparts, rfl⟩ := ha
  rw [hparts, hb.splitPairs_end hmark]
  constructor
  · have hlength := List.length_pos_iff.mpr hne
    simp only [List.length_append, List.length_singleton]
    omega
  · rw [List.map_append, List.map_singleton, chain_snoc (by simpa using hne), hvalue]

end

/-! ## Conjunctions and disjunctions -/

theorem grouped_space {level : Nat} {cs : List Char} (h : Grouped (isPartChar level) cs) :
    Grouped (isPartChar level) (' ' :: cs) := .plain rfl rfl (by simp [isPartChar, isOuterChar]) h

/-- The right operand of `&&` is one conjunct. -/
theorem grouped_right (b : Expression) : Grouped (isPartChar 3) (b.operand 3 b.outer) :=
  isKey_nil.grouped (Nat.le_refl 3) (grouped_operand (grouped_outer b) (Nat.le_refl 3))

/-- The right operand of `||` is one disjunct. -/
theorem grouped_disjunct (b : Expression) : Grouped (isPartChar 2) (b.operand 2 b.outer) :=
  isKey_nil.grouped (Nat.le_succ 2) (grouped_operand (grouped_outer b) (Nat.le_refl 2))

theorem conjunction_single {cs : List Char} (h : Grouped (isPartChar 3) cs) (htrim : IsTrimmed cs)
    (m n : Nat) : conjunction (spaces m ++ (cs ++ spaces n)) = cs := by
  have hparts := ((grouped_spaces rfl m).append (h.append (grouped_spaces rfl n))).splitPairs_end
    isMark_and
  rw [conjunction, conjuncts, hparts]
  simp only [List.map_singleton, trim_spaces htrim]
  rfl

theorem isChain_single_and {cs : List Char} (h : Grouped (isPartChar 3) cs)
    (htrim : IsTrimmed cs) (m : Nat) : IsChain '&' andBlock trim (spaces m ++ cs) cs := by
  refine ((grouped_spaces rfl m).append h).isChain isMark_and ?_ ?_
  · simp [not_blank_of_isTrimmed htrim]
  · rw [List.append_assoc]
    exact trim_spaces htrim m 1

theorem writeKeyed_and (key : List Char) (a b : Expression) :
    (Expression.and a b).writeKeyed tightStyle key =
      andBlock (a.withinKeyed 2 key (a.write tightStyle) (a.writeKeyed tightStyle key))
        (b.operand 3 b.outer) := by
  rw [Expression.operand_eq (Nat.le_refl 3)]
  exact scriptStyle_and _ _

theorem writeKeyed_or (key : List Char) (a b : Expression) :
    (Expression.or a b).writeKeyed tightStyle key =
      orBlock (a.withinKeyed 1 key (a.write tightStyle) (a.writeKeyed tightStyle key))
        (b.within 2 (b.write tightStyle)) :=
  scriptStyle_or _ _

section

variable {key : List Char}

theorem IsKey.isChain_operand_and (hkey : IsKey key) {e : Expression} (h : 2 ≤ e.level → ∀ m,
      IsChain '&' andBlock trim (spaces m ++ (key ++ e.outer)) (e.writeKeyed tightStyle key))
    (m : Nat) : IsChain '&' andBlock trim (spaces m ++ (key ++ e.operand 2 e.outer))
      (e.withinKeyed 2 key (e.write tightStyle) (e.writeKeyed tightStyle key)) := by
  rcases exists_operand_keyed e 2 key with ⟨-, he, hw⟩ | ⟨hle, he, hw⟩
  · obtain ⟨hgrouped, hlayout⟩ := hkey.grouped_bracketed e
    rw [he, hw]
    exact isChain_single_and hgrouped hlayout.trimmed m
  · rw [he, hw]
    exact h hle m

theorem IsKey.isChain_and (hkey : IsKey key) {e : Expression} (h : 2 ≤ e.level) (m : Nat) :
    IsChain '&' andBlock trim (spaces m ++ (key ++ e.outer)) (e.writeKeyed tightStyle key) := by
  induction e using Expression.induct generalizing m with
  | and a b iha _ =>
    have hb := isLaidOut_operand (isLaidOut_outer b) 3
    have hchain := (hkey.isChain_operand_and (fun h m => iha h m) m).append
      (grouped_space (grouped_right b)) isMark_and (not_blank_of_isTrimmed hb.trimmed)
      (trim_spaces hb.trimmed 1 1)
    rw [← writeKeyed_and, List.append_assoc, List.append_assoc] at hchain
    exact hchain
  | or => simp [Expression.level] at h
  | cond => simp [Expression.level] at h
  | _ =>
    rw [Expression.writeKeyed_eq _ _ (by simp [Expression.level]),
      ← Expression.outer_eq (by simp [Expression.level])]
    refine isChain_single_and (hkey.grouped_keyed (Nat.le_refl 3) ?_)
      (hkey.isLaidOut_keyed _).trimmed m
    simp [Expression.level]

theorem IsKey.conjuncts_and (hkey : IsKey key) (a b : Expression) (m n : Nat) :
    2 ≤ (conjuncts (spaces m ++ (key ++ (Expression.and a b).outer ++ spaces n))).length ∧
      conjunction (spaces m ++ (key ++ (Expression.and a b).outer ++ spaces n)) =
        (Expression.and a b).writeKeyed tightStyle key := by
  have hb := isLaidOut_operand (isLaidOut_outer b) 3
  have hparts := (hkey.isChain_operand_and (fun h m => hkey.isChain_and h m) m (e := a)).parts
    (grouped_space ((grouped_right b).append (grouped_spaces rfl n))) isMark_and
    (trim_spaces hb.trimmed 1 n)
  have htext : spaces m ++ (key ++ (Expression.and a b).outer ++ spaces n) =
      spaces m ++ (key ++ a.operand 2 a.outer) ++
        ' ' :: '&' :: '&' :: ' ' :: (b.operand 3 b.outer ++ spaces n) := by
    simp [Expression.outer, formulaStyle]
  rw [conjunction, conjuncts, htext, writeKeyed_and]
  exact hparts

theorem IsKey.conjunction_outer (hkey : IsKey key) {e : Expression} (h : 2 ≤ e.level) (m n : Nat) :
    conjunction (spaces m ++ (key ++ e.outer ++ spaces n)) = e.writeKeyed tightStyle key := by
  cases e with
  | and a b => exact (hkey.conjuncts_and a b m n).2
  | or => simp [Expression.level] at h
  | cond => simp [Expression.level] at h
  | _ =>
    rw [Expression.writeKeyed_eq _ _ (by simp [Expression.level]),
      ← Expression.outer_eq (by simp [Expression.level])]
    refine conjunction_single (hkey.grouped_keyed (Nat.le_refl 3) ?_)
      (hkey.isLaidOut_keyed _).trimmed m n
    simp [Expression.level]

theorem IsKey.isChain_operand_or (hkey : IsKey key) {e : Expression} (h : 1 ≤ e.level →
      IsChain '|' orBlock conjunction (key ++ e.outer) (e.writeKeyed tightStyle key)) :
    IsChain '|' orBlock conjunction (key ++ e.operand 1 e.outer)
      (e.withinKeyed 1 key (e.write tightStyle) (e.writeKeyed tightStyle key)) := by
  rcases exists_operand_keyed e 1 key with ⟨-, he, hw⟩ | ⟨hle, he, hw⟩
  · obtain ⟨hgrouped, hlayout⟩ := hkey.grouped_bracketed e
    rw [he, hw]
    exact Grouped.isChain (hgrouped.mono (isPartChar_mono (Nat.le_succ 2))) isMark_or
      (not_blank_of_isTrimmed hlayout.trimmed) (conjunction_single hgrouped hlayout.trimmed 0 1)
  · rw [he, hw]
    exact h hle

theorem IsKey.isChain_single_or (hkey : IsKey key) {e : Expression} (h : 2 ≤ e.level) :
    IsChain '|' orBlock conjunction (key ++ e.outer) (e.writeKeyed tightStyle key) :=
  (hkey.grouped_keyed (Nat.le_succ 2) h).isChain isMark_or
    (not_blank_of_isTrimmed (hkey.isLaidOut_keyed e).trimmed) (hkey.conjunction_outer h 0 1)

/-- No key stands before the right operand. -/
theorem conjunction_operand (e : Expression) (m n : Nat) :
    conjunction (spaces m ++ (e.operand 2 e.outer ++ spaces n)) =
      e.within 2 (e.write tightStyle) := by
  rcases exists_operand e 2 e.outer with ⟨-, he, hw⟩ | ⟨hle, he, hw⟩
  · obtain ⟨hgrouped, hlayout⟩ := isKey_nil.grouped_bracketed e
    rw [he, hw]
    exact conjunction_single hgrouped hlayout.trimmed m n
  · have houter := isKey_nil.conjunction_outer hle m n
    rw [he, hw, ← Expression.writeKeyed_nil]
    exact houter

theorem IsKey.isChain_or (hkey : IsKey key) {e : Expression} (h : 1 ≤ e.level) :
    IsChain '|' orBlock conjunction (key ++ e.outer) (e.writeKeyed tightStyle key) := by
  induction e using Expression.induct with
  | or a b iha _ =>
    have hb := isLaidOut_operand (isLaidOut_outer b) 2
    have hchain := (hkey.isChain_operand_or iha).append (grouped_space (grouped_disjunct b))
      isMark_or (not_blank_of_isTrimmed hb.trimmed) (conjunction_operand b 1 1)
    rw [← writeKeyed_or, List.append_assoc] at hchain
    exact hchain
  | cond => simp [Expression.level] at h
  | _ =>
    refine hkey.isChain_single_or ?_
    simp [Expression.level]

theorem IsKey.disjuncts_or (hkey : IsKey key) (a b : Expression) :
    2 ≤ (disjuncts (key ++ (Expression.or a b).outer)).length ∧
      chain orBlock ((disjuncts (key ++ (Expression.or a b).outer)).map conjunction) =
        (Expression.or a b).writeKeyed tightStyle key := by
  have hright := conjunction_operand b 1 0
  rw [show spaces 0 = [] from rfl, List.append_nil] at hright
  have hparts := (hkey.isChain_operand_or (hkey.isChain_or (e := a))).parts
    (grouped_space (grouped_disjunct b)) isMark_or hright
  rw [← writeKeyed_or, List.append_assoc] at hparts
  exact hparts

end

/-! ## Logic -/

theorem Opens.beginsWith {word cs : List Char} (h : Opens cs) (hword : word ∈ reservedWords) :
    beginsWith word cs = false := by
  unfold Desugaring.beginsWith
  cases hafter : Desugaring.after? word cs with
  | none => rfl
  | some rest =>
    obtain ⟨c, hc, hchar⟩ := h.after? hword hafter
    simp [Option.mem_def.mp hc, isNameChar_of_isIdentifierChar hchar]

theorem IsHeadless.desugarLogic {cs : List Char} (h : IsHeadless cs) (m n : Nat) :
    desugarLogic (spaces m ++ (cs ++ spaces n)) =
      if (disjuncts cs).length = 1 ∧ (conjuncts cs).length = 1 then spaces m ++ (cs ++ spaces n)
      else chain orBlock ((disjuncts cs).map conjunction) ++ spaces n := by
  have hstatement : (statementWords.any fun w => Desugaring.beginsWith w cs) = false :=
    List.any_eq_false.mpr fun w hw => by
      simp [h.layout.opens.beginsWith (List.mem_append_right _ hw)]
  unfold Desugaring.desugarLogic
  simp only [h.splitHead, trim_spaces h.layout.trimmed, hstatement,
    trailingBlanks_spaces h.layout.trimmed]
  rfl

/-- Without logic outside groups there is one disjunct, and it has one conjunct. -/
theorem parts_single {cs : List Char} (h : Grouped (isPartChar 3) cs) :
    (disjuncts cs).length = 1 ∧ (conjuncts cs).length = 1 := by
  rw [disjuncts, (h.mono (isPartChar_mono (Nat.le_succ 2))).splitPairs_end isMark_or, conjuncts,
    h.splitPairs_end isMark_and]
  exact ⟨rfl, rfl⟩

/-- A text without logic and conditionals outside its groups stays as it is. -/
theorem desugarLogic_single {cs : List Char} (h : Grouped (isPartChar 3) cs)
    (hlayout : IsLaidOut cs) : desugarLogic cs = cs := by
  have hlogic := (isHeadless_single h hlayout).desugarLogic 0 0
  rw [if_pos (parts_single h)] at hlogic
  simpa only [spaces, List.replicate_zero, List.nil_append, List.append_nil] using hlogic

section

variable {key : List Char}

theorem IsKey.parts_of_logic (hkey : IsKey key) {e : Expression} (h : 1 ≤ e.level ∧ e.level < 3) :
    ¬ ((disjuncts (key ++ e.outer)).length = 1 ∧ (conjuncts (key ++ e.outer)).length = 1) ∧
      chain orBlock ((disjuncts (key ++ e.outer)).map conjunction) =
        e.writeKeyed tightStyle key := by
  cases e with
  | and a b =>
    have hand := hkey.conjuncts_and a b 0 0
    simp only [spaces, List.replicate_zero, List.nil_append, List.append_nil] at hand
    have hor : disjuncts (key ++ (Expression.and a b).outer) =
        [key ++ (Expression.and a b).outer] := by
      refine (hkey.grouped_keyed (Nat.le_succ 2) ?_).splitPairs_end isMark_or
      exact Nat.le_refl 2
    rw [hor, List.map_singleton, hand.2]
    exact ⟨fun hone => by omega, rfl⟩
  | or a b =>
    obtain ⟨htwo, hjoined⟩ := hkey.disjuncts_or a b
    exact ⟨fun hone => by omega, hjoined⟩
  | _ => simp [Expression.level] at h

/-- Behind its key an expression becomes the block of its operators, and the key goes into it. -/
theorem IsKey.desugarLogic_outer (hkey : IsKey key) {e : Expression} (h : 1 ≤ e.level) (m n : Nat) :
    desugarLogic (spaces m ++ (key ++ e.outer ++ spaces n)) =
      if e.level < 3 then e.writeKeyed tightStyle key ++ spaces n
      else spaces m ++ (e.writeKeyed tightStyle key ++ spaces n) := by
  rw [(hkey.isHeadless_outer h).desugarLogic]
  by_cases hlogic : e.level < 3
  · obtain ⟨hparts, hjoined⟩ := hkey.parts_of_logic ⟨h, hlogic⟩
    rw [if_neg hparts, if_pos hlogic, hjoined]
  · have hlevel := Nat.le_of_not_lt hlogic
    rw [if_pos (parts_single (hkey.grouped_keyed (Nat.le_refl 3) hlevel)), if_neg hlogic,
      Expression.writeKeyed_eq _ _ hlevel, Expression.outer_eq hlevel]

/-- A condition is desugared as an operand of `||` is. -/
theorem IsKey.desugarLogic_operand (hkey : IsKey key) (e : Expression) :
    desugarLogic (key ++ e.operand 1 e.outer) =
      e.withinKeyed 1 key (e.write tightStyle) (e.writeKeyed tightStyle key) := by
  rcases exists_operand_keyed e 1 key with ⟨-, he, hw⟩ | ⟨hle, he, hw⟩
  · obtain ⟨hgrouped, hlayout⟩ := hkey.grouped_bracketed e
    rw [he, hw, desugarLogic_single hgrouped hlayout]
  · have hlogic := hkey.desugarLogic_outer hle 0 0
    simp only [spaces, List.replicate_zero, List.nil_append, List.append_nil, ite_self] at hlogic
    rw [he, hw, hlogic]

end

end FormulaSheet.Desugaring
