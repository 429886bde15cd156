import FormulaSheet.Proofs.Desugaring.Assembly
import FormulaSheet.Proofs.Desugaring.Groups

/-!
Code without logic and conditionals. Groups, parts and heads are only cut out to be put back where
they were: whatever brackets, commas and bars there are, and whether they match or not, code in
which no question mark asks for a value, no `&&` and no `||` is not changed
(`IsInert.desugarConditionals_eq_self`). A part that is cut out is such code again, since the marks
around it (`IsCutOf`) neither begin nor end what a question mark belongs to.
-/

namespace FormulaSheet.Desugaring

/-- Code in which nothing is asked and no operands are joined: every question mark belongs to `??`,
`?.` or `?[`. -/
structure IsInert (cs : List Char) : Prop where
  question : ∀ a b, cs = a ++ '?' :: b → isQuestion a.getLast? b.head? = false
  and : ¬ ['&', '&'] <:+: cs
  or : ¬ ['|', '|'] <:+: cs

variable {cs ds : List Char}

/-! ## Cuts -/

def separators : List Char := [',', ';']

/-- A part of a text with marks on both sides, or with an end of the text there. -/
def IsCutOf (ds cs : List Char) : Prop :=
  ∃ a b, cs = a ++ (ds ++ b) ∧ (∀ c ∈ a.getLast?, closer? c ≠ none ∨ c ∈ separators) ∧
    ∀ c ∈ b.head?, isCloser c = true ∨ c ∈ separators

theorem IsCutOf.isInfix (h : IsCutOf ds cs) : ds <:+: cs := by
  obtain ⟨a, b, rfl, -, -⟩ := h
  exact ⟨a, b, List.append_assoc a ds b⟩

theorem isCutOf_group {o d : Char} (ho : closer? o ≠ none) (hd : isCloser d = true)
    (h : o :: (ds ++ [d]) <:+: cs) : IsCutOf ds cs := by
  obtain ⟨a, b, rfl⟩ := h
  refine ⟨a ++ [o], d :: b, by simp, fun c hc => ?_, fun c hc => ?_⟩
  · rw [List.getLast?_concat] at hc
    exact .inl (Option.some.inj hc ▸ ho)
  · exact .inl (Option.some.inj hc ▸ hd)

/-- A question mark at the front of a part is not the second one of `??`. -/
theorem isQuestion_of_begins {before after : Option Char}
    (h : ∀ c ∈ before, closer? c ≠ none ∨ c ∈ separators) :
    isQuestion before after = isQuestion none after := by
  cases before with
  | none => rfl
  | some c =>
    have hc : c ≠ '?' := by
      rintro rfl
      exact absurd (h '?' rfl) (by decide)
    have hbefore : (some c != some '?') = true := bne_iff_ne.mpr fun heq => hc (Option.some.inj heq)
    rw [isQuestion, isQuestion, hbefore]
    rfl

/-- A question mark at the end of a part has nothing that it belongs to after it. -/
theorem isQuestion_of_ends {before after : Option Char}
    (h : ∀ c ∈ after, isCloser c = true ∨ c ∈ separators) :
    isQuestion before after = isQuestion before none := by
  cases after with
  | none => rfl
  | some c =>
    have hafter : ∀ {x : Char}, ¬ (isCloser x = true ∨ x ∈ separators) →
        (some c != some x) = true :=
      fun hx => bne_iff_ne.mpr fun heq => hx (Option.some.inj heq ▸ h c rfl)
    have hquestion : (some c != some '?') = true := hafter (by decide)
    have hpoint : (some c != some '.') = true := hafter (by decide)
    have hbracket : (some c != some '[') = true := hafter (by decide)
    rw [isQuestion, isQuestion, hquestion, hpoint, hbracket]
    rfl

theorem IsInert.of_isCutOf (h : IsInert cs) (hds : IsCutOf ds cs) : IsInert ds where
  question := by
    obtain ⟨x, y, rfl, hx, hy⟩ := hds
    rintro a b rfl
    have hmark := h.question (x ++ a) (b ++ y) (by simp)
    rw [List.getLast?_append, List.head?_append] at hmark
    cases a with
    | nil =>
      rw [List.getLast?_nil, Option.none_or, isQuestion_of_begins hx] at hmark
      cases b with
      | nil => rwa [List.head?_nil, Option.none_or, isQuestion_of_ends hy] at hmark
      | cons c b => exact hmark
    | cons d a =>
      rw [List.getLast?_cons] at hmark ⊢
      cases b with
      | nil => rwa [List.head?_nil, Option.none_or, isQuestion_of_ends hy] at hmark
      | cons c b => exact hmark
  and := fun hand => h.and (hand.trans hds.isInfix)
  or := fun hor => h.or (hor.trans hds.isInfix)

/-! ## Operands -/

theorem trim_isInfix (cs : List Char) : trim cs <:+: cs := by
  have hend : trim cs <+: trimStart cs :=
    ⟨trailingBlanks (trimStart cs) |>.reverse, by
      rw [trim, trimEnd, trailingBlanks, ← List.reverse_append, List.takeWhile_append_dropWhile,
        List.reverse_reverse]⟩
  exact hend.isInfix.trans (trimStart_isSuffix cs).isInfix

theorem splitHead_isSuffix (cs : List Char) : (splitHead cs).2 <:+ cs := by
  unfold splitHead
  generalize cs.length = fuel
  induction fuel generalizing cs with
  | zero => exact List.suffix_refl cs
  | succ fuel ih =>
    unfold splitHeadWith
    split
    · exact (ih _).trans (List.drop_suffix _ cs)
    · exact List.suffix_refl cs

theorem length_splitPairs {mark : Char} (h : ¬ [mark, mark] <:+: cs) :
    (splitPairs mark 0 [] cs).length = 1 := by
  have hjoined := intercalate_splitPairs mark 0 [] cs
  match hparts : splitPairs mark 0 [] cs with
  | [] => exact absurd hparts (splitPairs_ne_nil mark 0 [] cs)
  | [_] => rfl
  | part :: next :: parts =>
    rw [hparts, List.intercalate_cons_cons] at hjoined
    exact absurd ⟨part, _, hjoined⟩ h

theorem IsInert.desugarLogic_eq_self (h : IsInert cs) : desugarLogic cs = cs := by
  have hbody : trim (splitHead cs).2 <:+: cs :=
    (trim_isInfix _).trans (splitHead_isSuffix cs).isInfix
  have hor := length_splitPairs fun hpair => h.or (hpair.trans hbody)
  have hand := length_splitPairs fun hpair => h.and (hpair.trans hbody)
  simp only [desugarLogic]
  split
  · rfl
  · rw [if_pos ⟨hor, hand⟩]

theorem splitQuestion?_of_unasked {before : Option Char} (depth : Nat)
    (h : ∀ a b, cs = a ++ '?' :: b → isQuestion (a.getLast?.or before) b.head? = false) :
    splitQuestion? depth before cs = none := by
  induction cs generalizing before depth with
  | nil => rfl
  | cons c cs ih =>
    have hhere : ¬ (c = '?' ∧ depth = 0 ∧ isQuestion before cs.head? = true) := by
      rintro ⟨rfl, -, hquestion⟩
      exact absurd ((h [] cs rfl).symm.trans hquestion) (by decide)
    have hlater : splitQuestion? (depthAfter c depth) (some c) cs = none := by
      refine ih _ fun a b hcs => ?_
      have hmark := h (c :: a) b (congrArg (c :: ·) hcs)
      cases a with
      | nil => exact hmark
      | cons d a => simpa [List.getLast?_cons] using hmark
    rw [splitQuestion?, if_neg hhere, hlater]
    rfl

theorem IsInert.desugarPart_eq_self (h : IsInert cs) (fuel : Nat) : desugarPart fuel cs = cs := by
  cases fuel with
  | zero => rfl
  | succ fuel =>
    have hquestion : splitQuestion? 0 none cs = none :=
      splitQuestion?_of_unasked 0 fun a b hcs => by rw [Option.or_none, h.question a b hcs]
    rw [desugarPart, hquestion]
    exact h.desugarLogic_eq_self

/-! ## Parts and groups -/

theorem isCutOf_part {first : List Char} {parts : List (Char × List Char)}
    (hcs : cs = first ++ parts.flatMap fun p => p.1 :: p.2)
    (hmarks : ∀ p ∈ parts, p.1 ∈ separators) :
    IsCutOf first cs ∧ ∀ p ∈ parts, IsCutOf p.2 cs := by
  have hnext : ∀ {ps : List (Char × List Char)}, ps ⊆ parts →
      ∀ c ∈ (ps.flatMap fun p => p.1 :: p.2).head?, isCloser c = true ∨ c ∈ separators := by
    intro ps hps c hc
    cases ps with
    | nil => cases hc
    | cons p ps => exact .inr (Option.some.inj hc ▸ hmarks p (hps List.mem_cons_self))
  refine ⟨⟨[], _, hcs, by simp, hnext (List.Subset.refl parts)⟩, fun p hp => ?_⟩
  obtain ⟨before, after, rfl⟩ := List.append_of_mem hp
  refine ⟨first ++ before.flatMap (fun p => p.1 :: p.2) ++ [p.1],
    after.flatMap fun p => p.1 :: p.2, by simp [hcs], fun c hc => ?_,
    hnext fun q hq => by simp [hq]⟩
  rw [List.getLast?_concat] at hc
  exact .inr (Option.some.inj hc ▸ hmarks p hp)

theorem mapParts_eq_self {f : List Char → List Char} (h : ∀ part, IsCutOf part cs → f part = part) :
    mapParts f cs = cs := by
  obtain ⟨htext, hmarks⟩ := splitSequence_eq 0 cs
  obtain ⟨hfirst, hparts⟩ := isCutOf_part htext fun p hp => by simpa [separators] using hmarks p hp
  change f (splitSequence 0 cs).1 ++ (splitSequence 0 cs).2.flatMap (fun p => p.1 :: f p.2) = cs
  have hrest : (splitSequence 0 cs).2.map (fun p => p.1 :: f p.2) =
      (splitSequence 0 cs).2.map fun p => p.1 :: p.2 :=
    List.map_congr_left fun p hp => congrArg (p.1 :: ·) (h _ (hparts p hp))
  rw [h _ hfirst, List.flatMap_def, hrest, ← List.flatMap_def, ← htext]

theorem mapGroups_eq_self_of_isInfix {f : List Char → List Char}
    (h : ∀ o inside d, closer? o ≠ none → isCloser d = true → o :: (inside ++ [d]) <:+: cs →
      f inside = inside) : mapGroups f cs = cs := by
  induction hn : cs.length using Nat.strongRecOn generalizing cs with
  | ind n ih =>
    cases cs with
    | nil => rfl
    | cons c cs =>
      have htail : cs <:+ c :: cs := List.suffix_cons c cs
      cases hgroup : group? (c :: cs) with
      | none =>
        rw [mapGroups, (looksAhead_mapGroups f).replaceAll_of_none (by rw [hgroup]; rfl)]
        refine congrArg (c :: ·) (ih cs.length ?_ (fun o inside d ho hd hin => ?_) rfl)
        · rw [← hn]
          exact Nat.lt_succ_self _
        · exact h o inside d ho hd (hin.trans htail.isInfix)
      | some group =>
        obtain ⟨inside, d, rest⟩ := group
        obtain ⟨o, ho, heq, hd⟩ := group?_eq_some hgroup
        cases heq
        have hinside : f inside = inside := h c inside d ho hd ⟨[], rest, by simp⟩
        have hrest : mapGroups f rest = rest := by
          refine ih rest.length ?_ (fun o more e ho he hmore => ?_) rfl
          · rw [← hn]
            simp
            omega
          · exact h o more e ho he (hmore.trans ⟨c :: (inside ++ [d]), [], by simp⟩)
        rw [mapGroups, (looksAhead_mapGroups f).replaceAll_of_some (n := inside.length + 1)
          (by rw [hgroup]; rfl)]
        have hdrop : (inside ++ d :: rest).drop (inside.length + 1) = rest := by
          rw [List.append_cons, List.drop_left' (by simp)]
        rw [hdrop, hinside, show replaceAll _ rest = mapGroups f rest from rfl, hrest]
        simp

theorem IsInert.desugarGroups_eq_self (h : IsInert cs) (fuel : Nat) :
    desugarGroups fuel cs = cs := by
  induction fuel generalizing cs with
  | zero => rfl
  | succ fuel ih =>
    have hgroups : mapGroups (desugarGroups fuel) cs = cs :=
      mapGroups_eq_self_of_isInfix fun _ _ _ ho hd hin =>
        ih (h.of_isCutOf (isCutOf_group ho hd hin))
    rw [desugarGroups, hgroups]
    exact mapParts_eq_self fun part hpart => (h.of_isCutOf hpart).desugarPart_eq_self _

/-- Without logic and conditionals nothing is changed. -/
theorem IsInert.desugarConditionals_eq_self (h : IsInert cs) : desugarConditionals cs = cs :=
  h.desugarGroups_eq_self _

end FormulaSheet.Desugaring
