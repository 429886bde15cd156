import FormulaSheet.Proofs.Desugaring.Preservation

/-!
Groups, conditionals and logic take code apart and put it together again. They cut it at brackets
and marks, which placeholders do not have, and keep the order of what stands between them; so the
placeholders stay in order.
-/

namespace FormulaSheet.Desugaring

variable {i j k l : Nat} {a b cs : List Char} {c mark : Char}

/-! ## Groups and the parts between commas -/

theorem not_isSlotChar_of_closer? (h : closer? c ≠ none) : isSlotChar c = false := by
  refine not_isSlotChar (p := fun c => (closer? c).isSome) (by decide) ?_
    (Option.isSome_iff_ne_none.mpr h)
  intro d hd
  rw [closer?_of_isIdentifierChar hd]
  rfl

theorem Preserves.mapGroups {f : List Char → List Char} (h : Preserves f) :
    Preserves (mapGroups f) := by
  refine Keeps.replaceAll fun before cs new n hrule => ?_
  obtain ⟨⟨inside, d, rest⟩, hgroup, heq⟩ := Option.map_eq_some_iff.mp hrule
  obtain ⟨o, hopens, rfl, hd⟩ := group?_eq_some hgroup
  cases heq
  refine ⟨by omega, fun out i j hholds => ?_⟩
  have ho : isSlotChar o = false := not_isSlotChar_of_closer? hopens
  have hd : isSlotChar d = false := not_isSlotChar_of_isCloser hd
  obtain ⟨k, hout, hoquote, hinside⟩ := hholds.split_cons ho
  obtain ⟨l, hinside, hdquote, hrest⟩ := hinside.split_cons hd
  have hgroup : Holding k j (o :: (f inside ++ d :: rest)) :=
    .char (ne_at_of_not_isSlotChar ho) hoquote
      ((h hinside).append (.char (ne_at_of_not_isSlotChar hd) hdquote hrest))
  simpa using hout.append hgroup

theorem splitSequence_eq (depth : Nat) (cs : List Char) :
    cs = (splitSequence depth cs).1 ++
        (splitSequence depth cs).2.flatMap (fun p => p.1 :: p.2) ∧
      ∀ p ∈ (splitSequence depth cs).2, p.1 = ',' ∨ p.1 = ';' := by
  induction cs generalizing depth with
  | nil => simp [splitSequence]
  | cons c cs ih =>
    unfold splitSequence
    split
    · rename_i hmark
      obtain ⟨htext, hmarks⟩ := ih 0
      exact ⟨congrArg (c :: ·) htext, List.forall_mem_cons.mpr ⟨hmark.2, hmarks⟩⟩
    · obtain ⟨htext, hmarks⟩ := ih (depthAfter c depth)
      exact ⟨congrArg (c :: ·) htext, hmarks⟩

theorem Preserves.mapParts {f : List Char → List Char} (h : Preserves f) :
    Preserves (mapParts f) := by
  intro i j cs hcs
  obtain ⟨htext, hmarks⟩ := splitSequence_eq 0 cs
  rw [htext] at hcs
  change Holding i j (f (splitSequence 0 cs).1 ++
    (splitSequence 0 cs).2.flatMap fun p => p.1 :: f p.2)
  -- the parts after the first one, each with the mark before it
  generalize (splitSequence 0 cs).1 = part at hcs ⊢
  generalize (splitSequence 0 cs).2 = parts at hcs hmarks ⊢
  induction parts generalizing i part with
  | nil => simpa using h (by simpa using hcs)
  | cons p parts ih =>
    obtain ⟨hmark, hmarks⟩ := List.forall_mem_cons.mp hmarks
    have hslot : isSlotChar p.1 = false := by
      rcases hmark with hcomma | hsemicolon
      · rw [hcomma]
        decide
      · rw [hsemicolon]
        decide
    rw [List.flatMap_cons, List.cons_append] at hcs
    obtain ⟨k, hpart, hquote, hrest⟩ := hcs.split_cons hslot
    have hparts := ih p.2 hrest hmarks
    simpa using (h hpart).append (.char (ne_at_of_not_isSlotChar hslot) hquote hparts)

/-! ## Chains of operands -/

/-- Texts that hold placeholders in order, one text after the other. -/
inductive HoldingEach : Nat → Nat → List (List Char) → Prop
  | nil (i : Nat) : HoldingEach i i []
  | cons {i j k : Nat} {part : List Char} {parts : List (List Char)} : Holding i j part →
    HoldingEach j k parts → HoldingEach i k (part :: parts)

theorem HoldingEach.map {f : List Char → List Char} {parts : List (List Char)}
    (h : HoldingEach i j parts) (hf : Preserves f) : HoldingEach i j (parts.map f) := by
  induction h with
  | nil => exact .nil _
  | cons hpart _ ih => exact .cons (hf hpart) ih

/-- A function of two texts that keeps the placeholders of the first before those of the second. -/
def Joins (join : List Char → List Char → List Char) : Prop :=
  ∀ ⦃i j k : Nat⦄ ⦃a b : List Char⦄, Holding i j a → Holding j k b → Holding i k (join a b)

theorem Joins.chain {join : List Char → List Char → List Char} (hjoin : Joins join)
    {parts : List (List Char)} (h : HoldingEach i k parts) : Holding i k (chain join parts) := by
  cases h with
  | nil => exact .nil i
  | @cons _ j _ part parts hpart hparts =>
    change Holding i k (parts.foldl join part)
    induction hparts generalizing i part with
    | nil => exact hpart
    | cons hnext _ ih => exact ih (hjoin hpart hnext)

theorem Holding.parts {parts : List (List Char)} (hmark : isSlotChar mark = false)
    (h : Holding i k (List.intercalate [mark, mark] parts)) : HoldingEach i k parts := by
  induction parts generalizing i with
  | nil =>
    obtain rfl := h.eq_of_nil
    exact .nil i
  | cons part parts ih =>
    cases parts with
    | nil =>
      have hpart : Holding i k part := by simpa [List.intercalate] using h
      exact .cons hpart (.nil k)
    | cons next parts =>
      rw [List.intercalate_cons_cons, List.append_assoc, List.cons_append] at h
      obtain ⟨j, hpart, -, hrest⟩ := h.split_cons hmark
      exact .cons hpart (ih (hrest.of_cons (ne_at_of_not_isSlotChar hmark)).2)

theorem splitPairs_ne_nil (mark : Char) (depth : Nat) (part cs : List Char) :
    splitPairs mark depth part cs ≠ [] := by
  fun_induction splitPairs mark depth part cs with
  | case1 => simp
  | case2 => simp
  | case3 => simp
  | case4 _ _ _ _ _ _ ih => exact ih

theorem intercalate_splitPairs (mark : Char) (depth : Nat) (part cs : List Char) :
    List.intercalate [mark, mark] (splitPairs mark depth part cs) = part.reverse ++ cs := by
  fun_induction splitPairs mark depth part cs with
  | case1 => simp [List.intercalate]
  | case2 => simp [List.intercalate]
  | case3 part depth c d cs hmark ih =>
    obtain ⟨-, rfl, rfl, -⟩ := hmark
    rw [List.intercalate_cons_of_ne_nil (splitPairs_ne_nil _ _ _ _), ih]
    simp
  | case4 _ _ _ _ _ _ ih =>
    rw [ih]
    simp

theorem Holding.splitPairs (hmark : isSlotChar mark = false) (h : Holding i k cs) :
    HoldingEach i k (splitPairs mark 0 [] cs) := by
  refine Holding.parts hmark ?_
  rwa [intercalate_splitPairs]

/-! ## Blocks -/

theorem Holding.append_clean (ha : Holding i j a) (hb : IsClean b) : Holding i j (a ++ b) :=
  ha.append (holding_of_isClean hb j)

theorem holding_chooseBlock {left onTrue onFalse : List Char} (hleft : Holding i j left)
    (htrue : Holding j k onTrue) (hfalse : Holding k l onFalse) :
    Holding i l (chooseBlock left onTrue onFalse) := by
  have hopen : Holding i i ("(\x7b let ".toList ++ heldName ++ " = ".toList) :=
    holding_of_isClean (by decide) i
  have htest := (((hopen.append hleft).append_clean (b := "; if truthy(".toList)
    (by decide)).append_clean (b := heldName) (by decide)).append_clean (b := ") \x7b ".toList)
      (by decide)
  exact (((htest.append htrue).append_clean (by decide)).append hfalse).append_clean (by decide)

theorem joins_andBlock : Joins andBlock :=
  fun _ _ k _ _ ha hb => holding_chooseBlock ha hb (holding_of_isClean (by decide) k)

theorem joins_orBlock : Joins orBlock :=
  fun _ j _ _ _ ha hb => holding_chooseBlock ha (holding_of_isClean (by decide) j) hb

theorem holding_ifBlock {condition onTrue onFalse : List Char} (hcondition : Holding i j condition)
    (htrue : Holding j k onTrue) (hfalse : Holding k l onFalse) :
    Holding i l (ifBlock condition onTrue onFalse) := by
  have hopen : Holding i i "(if truthy(".toList := holding_of_isClean (by decide) i
  have htest := (hopen.append hcondition).append_clean (b := ") \x7b ".toList) (by decide)
  exact (((htest.append htrue).append_clean (by decide)).append hfalse).append_clean (by decide)

/-! ## Heads -/

/-- Whether the first `n` characters end with one that placeholders do not have. -/
def EndsAt (n : Nat) (cs : List Char) : Prop :=
  ∃ a c b, cs = a ++ c :: b ∧ isSlotChar c = false ∧ n = a.length + 1

theorem endsAt_barsLength? {n : Nat} (h : barsLength? cs = some n) : EndsAt n cs := by
  unfold barsLength? at h
  split at h
  · rename_i rest htrim
    obtain ⟨hinside, heq⟩ := Option.ite_none_left_eq_some.mp h
    cases heq
    obtain ⟨taken, -, hcs⟩ := passes_trimStart cs
    have hrest := List.takeWhile_append_dropWhile (p := (· != '|')) (l := rest)
    cases hafter : rest.dropWhile (· != '|') with
    | nil =>
      rw [hafter, List.append_nil] at hrest
      exact absurd (congrArg List.length hrest) hinside
    | cons d more =>
      have hd : isSlotChar d = false := by
        have hbar := List.head?_dropWhile_not (· != '|') rest
        rw [hafter] at hbar
        obtain rfl : d = '|' := by simpa using hbar
        decide
      rw [hafter] at hrest
      rw [htrim] at hcs
      refine ⟨taken ++ '|' :: rest.takeWhile (· != '|'), d, more, ?_, hd, ?_⟩
      · rw [hcs, List.append_assoc, List.cons_append, hrest]
      · rw [hcs]
        simp
        omega
  · cases h

theorem endsAt_lastBarFrom {depth here n : Nat} {last : Option Nat}
    (h : lastBarFrom depth here last cs = some n) : last = some n ∨
      ∃ a b, cs = a ++ '|' :: b ∧ n = here + a.length + 1 := by
  induction cs generalizing depth here last with
  | nil => exact .inl h
  | cons c cs ih =>
    unfold lastBarFrom at h
    split at h
    · exact .inl h
    · rcases ih h with hlast | ⟨a, b, rfl, rfl⟩
      · split at hlast
        · rename_i hbar
          cases hlast
          obtain ⟨-, rfl⟩ := hbar
          exact .inr ⟨[], cs, rfl, rfl⟩
        · exact .inl hlast
      · refine .inr ⟨c :: a, b, rfl, ?_⟩
        rw [List.length_cons]
        omega

theorem endsAt_returnLength? {n : Nat} (h : returnLength? cs = some n) : EndsAt n cs := by
  obtain ⟨rest, hreturn, hblank⟩ := Option.bind_eq_some_iff.mp h
  obtain ⟨-, heq⟩ := Option.ite_none_right_eq_some.mp hblank
  cases heq
  obtain ⟨taken, -, hcs⟩ := passes_trimStart cs
  rw [after?_eq_some_iff.mp hreturn] at hcs
  refine ⟨taken ++ "retur".toList, 'n', rest, ?_, by decide, ?_⟩
  · simpa using hcs
  · rw [hcs]
    simp
    omega

theorem endsAt_assignmentFrom? {depth n : Nat} {before : List Char}
    (h : assignmentFrom? depth before cs = some n) : EndsAt n (before.reverse ++ cs) := by
  induction cs generalizing depth before with
  | nil => cases h
  | cons c cs ih =>
    unfold assignmentFrom? at h
    split at h
    · rename_i hsign
      obtain ⟨rfl, -⟩ := hsign
      obtain ⟨-, htarget⟩ := Option.ite_none_left_eq_some.mp h
      obtain ⟨-, heq⟩ := Option.ite_none_right_eq_some.mp htarget
      cases heq
      exact ⟨before.reverse, '=', cs, rfl, by decide, by simp⟩
    · simpa using ih h

theorem endsAt_headLength? {n : Nat} (h : headLength? cs = some n) : EndsAt n cs := by
  simp only [headLength?, Option.orElse_eq_some] at h
  rcases h with hbars | ⟨-, hbar | ⟨-, hreturn | ⟨-, hassigned⟩⟩⟩
  · exact endsAt_barsLength? hbars
  · rcases endsAt_lastBarFrom hbar with hnone | ⟨a, b, rfl, rfl⟩
    · cases hnone
    · exact ⟨a, '|', b, rfl, by decide, by rw [Nat.zero_add]⟩
  · exact endsAt_returnLength? hreturn
  · exact endsAt_assignmentFrom? hassigned

theorem Holding.split_of_endsAt {n : Nat} (h : Holding i k cs) (hends : EndsAt n cs) :
    ∃ j, Holding i j (cs.take n) ∧ Holding j k (cs.drop n) := by
  obtain ⟨a, c, b, rfl, hc, rfl⟩ := hends
  rw [← List.take_append_drop (a.length + 1) (a ++ c :: b)] at h
  refine h.split (.inl fun d hd => ?_)
  have htake : (a ++ c :: b).take (a.length + 1) = a ++ [c] := by
    rw [List.take_length_add_append]
    rfl
  rw [htake, List.getLast?_concat] at hd
  cases hd
  exact hc

/-- A head and its value stand one after the other. -/
theorem Holding.splitHead (h : Holding i k cs) :
    ∃ j, Holding i j (splitHead cs).1 ∧ Holding j k (splitHead cs).2 := by
  unfold Desugaring.splitHead
  generalize cs.length = fuel
  induction fuel generalizing i cs with
  | zero => exact ⟨i, .nil i, h⟩
  | succ fuel ih =>
    unfold splitHeadWith
    split
    · rename_i n hn
      obtain ⟨j, htake, hdrop⟩ := h.split_of_endsAt (endsAt_headLength? hn)
      obtain ⟨l, hhead, hvalue⟩ := ih hdrop
      exact ⟨l, htake.append hhead, hvalue⟩
    · exact ⟨i, .nil i, h⟩

/-! ## Logic and conditionals -/

theorem isClean_gap (head : List Char) : IsClean (gap head) := by
  unfold gap
  split
  · split <;> decide
  · decide

theorem isClean_trailingBlanks (cs : List Char) : IsClean (trailingBlanks cs) :=
  isClean_blanks fun _ hc => isBlank_of_mem_trailingBlanks hc

theorem preserves_conjunction : Preserves fun part => chain andBlock ((conjuncts part).map trim) :=
  fun _ _ _ h => joins_andBlock.chain ((h.splitPairs (by decide)).map preserves_trim)

theorem preserves_desugarLogic : Preserves desugarLogic := by
  intro i k cs h
  obtain ⟨j, hhead, hvalue⟩ := h.splitHead
  have hjoined : Holding j k (chain orBlock ((disjuncts (trim (splitHead cs).2)).map fun part =>
      chain andBlock ((conjuncts part).map trim))) :=
    joins_orBlock.chain (((preserves_trim hvalue).splitPairs (by decide)).map preserves_conjunction)
  simp only [desugarLogic]
  split
  · exact h
  · split
    · exact h
    · exact ((hhead.append_clean (isClean_gap _)).append hjoined).append_clean
        (isClean_trailingBlanks _)

theorem splitQuestion?_eq_some {depth : Nat} {before : Option Char}
    (h : splitQuestion? depth before cs = some (a, b)) : cs = a ++ '?' :: b := by
  induction cs generalizing depth before a with
  | nil => cases h
  | cons c cs ih =>
    unfold splitQuestion? at h
    split at h
    · rename_i hmark
      cases h
      rw [hmark.1]
      rfl
    · obtain ⟨⟨a, b⟩, hrest, heq⟩ := Option.map_eq_some_iff.mp h
      cases heq
      rw [ih hrest]
      rfl

theorem splitColon?_eq_some {depth nested : Nat} {before : Option Char}
    (h : splitColon? depth nested before cs = some (a, b)) : cs = a ++ ':' :: b := by
  induction cs generalizing depth nested before a with
  | nil => cases h
  | cons c cs ih =>
    have hmore : ∀ {depth nested}, ((splitColon? depth nested (some c) cs).map
        fun p => (c :: p.1, p.2)) = some (a, b) → c :: cs = a ++ ':' :: b := by
      intro depth nested hmap
      obtain ⟨⟨a, b⟩, hrest, heq⟩ := Option.map_eq_some_iff.mp hmap
      cases heq
      rw [ih hrest]
      rfl
    simp only [splitColon?] at h
    split at h
    · exact hmore h
    · split at h
      · rename_i hmark
        split at h
        · cases h
          rw [hmark.1]
          rfl
        · exact hmore h
      · exact hmore h

theorem preserves_desugarPart (fuel : Nat) : Preserves (desugarPart fuel) := by
  induction fuel with
  | zero => exact fun _ _ _ h => h
  | succ fuel ih =>
    intro i k cs h
    unfold desugarPart
    split
    · exact preserves_desugarLogic h
    · rename_i front rest hquestion
      split
      · exact h
      · rename_i onTrue onFalse hcolon
        rw [splitQuestion?_eq_some hquestion] at h
        obtain ⟨j, hfront, -, hrest⟩ := h.split_cons (by decide)
        rw [splitColon?_eq_some hcolon] at hrest
        obtain ⟨l, htrue, -, hfalse⟩ := hrest.split_cons (by decide)
        obtain ⟨m, hhead, hcondition⟩ := hfront.splitHead
        have hblock := holding_ifBlock (preserves_desugarLogic (preserves_trim hcondition))
          (preserves_trim (ih htrue)) (preserves_trim (ih hfalse))
        exact ((hhead.append_clean (isClean_gap _)).append hblock).append_clean
          (isClean_trailingBlanks _)

theorem preserves_desugarGroups (fuel : Nat) : Preserves (desugarGroups fuel) := by
  induction fuel with
  | zero => exact fun _ _ _ h => h
  | succ fuel ih =>
    have hparts : Preserves (mapParts fun part => desugarPart (part.length + 1) part) :=
      Preserves.mapParts fun _ _ _ h => preserves_desugarPart _ h
    exact fun _ _ _ h => hparts (ih.mapGroups h)

end FormulaSheet.Desugaring
