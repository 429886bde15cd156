import FormulaSheet.Proofs.Desugaring.Translation

/-!
Entries of maps. What stands before the operand of a condition or of an operator is taken off when
it is the head of a closure, `return` or the target of an assignment, but not when it is the key of
an entry. So a key becomes part of the first operand of its value (`entry_script`), and only values
without logic and conditionals outside brackets are kept apart from it.
-/

namespace FormulaSheet.Desugaring

/-! ## Maps -/

/-- A map with the text of its entries. -/
def mapText (entries : List Char) : List Char := '#' :: '\x7b' :: (entries ++ ['\x7d'])

variable {key text : List Char} {e : Expression} {level : Nat}

theorem IsPlain.entry (k : Name) (h : IsPlain text) : IsPlain (mapText (keyText k ++ text)) := by
  have hclosed : IsPlain (text ++ ['\x7d']) :=
    h.append (.mark (by decide) .nil) fun c hc => by cases hc; rfl
  have hvalue : IsPlain (": ".toList ++ (text ++ ['\x7d'])) := hclosed.marks (by decide)
  have hentry : IsPlain (k.chars ++ (": ".toList ++ (text ++ ['\x7d']))) :=
    .word (Atom.name k).isFreeWord (fun c hc => by cases hc; rfl) hvalue
  have htext : mapText (keyText k ++ text) =
      "#\x7b".toList ++ (k.chars ++ (": ".toList ++ (text ++ ['\x7d']))) := by
    simp [mapText, keyText]
  rw [htext]
  exact hentry.marks (by decide)

/-! ## Negations -/

theorem not_mem_keyText (k : Name) : '!' ∉ keyText k := by
  refine List.not_mem_append (fun hmem => ?_) (by decide)
  exact absurd ((Atom.name k).isFreeWord.2.1 _ hmem) (by decide)

/-- Only the negations of the value are rewritten, and the last one ends at the brace. -/
theorem desugarNegations_entry (k : Name) (e : Expression) (level : Nat) {fuel : Nat}
    (hfuel : (e.within level (e.write formulaStyle)).length ≤ fuel) :
    desugarNegations (fuel + 1) (mapText (keyText k ++ e.within level (e.write formulaStyle))) =
      mapText (keyText k ++ e.within level (e.write negatedStyle)) := by
  have hfront : '!' ∉ '#' :: '\x7b' :: keyText k := by simp [not_mem_keyText]
  have hends : EndsPath ['\x7d'] := by
    rintro c ⟨⟩
    exact .inr (.inr (.inr (.inr rfl)))
  have hbrace : desugarNegations (fuel + 1) ['\x7d'] = ['\x7d'] := desugarNegations_cons (by decide) []
  have hmap : ∀ text : List Char,
      mapText (keyText k ++ text) = ('#' :: '\x7b' :: keyText k) ++ (text ++ ['\x7d']) := by
    intro text
    simp [mapText]
  rw [hmap, desugarNegations_append hfront,
    (isNegatedAs_write e).within level fuel ['\x7d'] hfuel (.inr hends), hbrace, hmap]

/-! ## Logic and conditionals -/

theorem IsKey.isLaidOut_withinKeyed (hkey : IsKey key)
    (h : IsLaidOut (e.writeKeyed tightStyle key)) (level : Nat) :
    IsLaidOut (e.withinKeyed level key (e.write tightStyle) (e.writeKeyed tightStyle key)) := by
  unfold Expression.withinKeyed
  split
  · exact (hkey.grouped_bracketed e).2
  · exact h

theorem IsKey.isLaidOut_writeKeyed (hkey : IsKey key) (e : Expression) :
    IsLaidOut (e.writeKeyed tightStyle key) := by
  induction e using Expression.induct with
  | and a b iha _ =>
    exact isSound_tightStyle.and (hkey.isLaidOut_withinKeyed iha 2)
      ((isLaidOut_write isSound_tightStyle b).within 3)
  | or a b iha _ =>
    exact isSound_tightStyle.or (hkey.isLaidOut_withinKeyed iha 1)
      ((isLaidOut_write isSound_tightStyle b).within 2)
  | cond c a b ihc _ _ =>
    exact isSound_tightStyle.cond (hkey.isLaidOut_withinKeyed ihc 1)
      (isLaidOut_write isSound_tightStyle a) (isLaidOut_write isSound_tightStyle b)
  | _ => exact hkey.layout (isLaidOut_write isSound_tightStyle _)

theorem leaves_entry (k : Name) (e : Expression) (level : Nat) :
    Leaves (keyText k ++ e.within level (e.write negatedStyle))
      (keyText k ++ e.operand level e.outer) := by
  have hname : Leaves k.chars k.chars := leaves_write (.atom (.name k))
  have hjoined := hname.joined (m := ": ".toList) (Atom.name k).isFreeWord.grouped.balanced
    (by decide) ((leaves_write e).operand level)
  simpa only [keyText, List.append_assoc] using hjoined

/-- A map stays as it is outside its braces. -/
theorem mapParts_mapText (h : Balanced text) :
    mapParts (fun part => desugarPart (part.length + 1) part) (mapText text) = mapText text := by
  have hbraces : Grouped (isPartChar 3) ('\x7b' :: (text ++ ['\x7d'])) := .bracketed h rfl
  have hgrouped : Grouped (isPartChar 3) (mapText text) := .plain rfl rfl rfl hbraces
  have htrimmed : IsTrimmed (mapText text) := isTrimmed_cons_append rfl rfl ('\x7b' :: text)
  exact mapParts_single hgrouped
    ⟨.mark (.inr (.inr (.inr rfl))), htrimmed, hgrouped.balanced⟩

/-- An entry is one part of its map, and its key stands before the first operator of the part. -/
theorem desugarConditionals_entry (k : Name) (e : Expression) (level : Nat) :
    desugarConditionals (mapText (keyText k ++ e.within level (e.write negatedStyle))) =
      mapText (e.withinKeyed level (keyText k) (e.write tightStyle)
        (e.writeKeyed tightStyle (keyText k))) := by
  have hkey := isKey_keyText k
  have hnothing : Leaves [] [] := fun _ _ => rfl
  have hinside : Balanced (keyText k ++ e.within level (e.write negatedStyle)) :=
    hkey.chars.balanced.append (balanced_negated_within e level)
  have hmap := hnothing.joined (m := ['#']) (.nil _) (by decide)
    (leaves_enclosed (o := '\x7b') rfl hinside fun _ hfuel =>
      hkey.desugarGroups_operand level (leaves_entry k e level) hfuel)
  have houtside := mapParts_mapText
    (hkey.isLaidOut_withinKeyed (hkey.isLaidOut_writeKeyed e) level).balanced
  rw [desugarConditionals, desugarGroups]
  exact (congrArg _ (hmap _ (Nat.le_refl _))).trans houtside

/-! ## Scripts -/

theorem toScript_entry (k : Name) (e : Expression) (level : Nat) :
    toScript (String.ofList (mapText (keyText k ++ e.within level (e.write formulaStyle)))) =
      String.ofList (mapText (e.withinKeyed level (keyText k) (e.write tightStyle)
        (e.writeKeyed tightStyle (keyText k)))) := by
  have hvalue : IsPlain (e.within level (e.write formulaStyle)) := (isPlain_write e).within level
  have hplain := hvalue.entry k
  have hlength : (e.within level (e.write formulaStyle)).length ≤
      (mapText (keyText k ++ e.within level (e.write formulaStyle))).length := by
    simp only [mapText, List.length_cons, List.length_append]
    omega
  have hnegations := desugarNegations_entry k e level hlength
  rw [toScript, String.toList_ofList, hplain.mask]
  simp only [hplain.desugarWords, hnegations, desugarConditionals_entry]
  rfl

/-- A block begins with its bracket, also when its first operand has a key. -/
theorem head?_writeKeyed (key : List Char) (h : e.level < 3) :
    (e.writeKeyed tightStyle key).head? = some '(' := by
  cases e with
  | and => rfl
  | or => rfl
  | cond => rfl
  | _ => simp [Expression.level] at h

theorem head?_unspaced {c : Char} (h : text.head? = some c) (hc : Text.isBlank c = false) :
    (unspaced text).head? = some c := by
  obtain ⟨cs, rfl⟩ : ∃ cs, text = c :: cs := by
    cases text with
    | nil => cases h
    | cons d cs => exact ⟨cs, by cases h; rfl⟩
  simp [unspaced, hc]

theorem unspaced_mapText_inj {text' : List Char} :
    unspaced (mapText text) = unspaced (mapText text') ↔ unspaced text = unspaced text' := by
  have hmap : ∀ cs, unspaced (mapText cs) = '#' :: '\x7b' :: (unspaced cs ++ ['\x7d']) := by
    intro cs
    have hopened : unspaced (mapText cs) = '#' :: '\x7b' :: unspaced (cs ++ ['\x7d']) := rfl
    rw [hopened, unspaced_append]
    rfl
  rw [hmap, hmap]
  simp

/-- A block is no text with a key in front. -/
theorem unspaced_writeKeyed_ne (k : Name) (h : e.level < 3) (cs : List Char) :
    unspaced (e.writeKeyed tightStyle (keyText k)) ≠ unspaced (keyText k ++ cs) := by
  intro heq
  have hblock := head?_unspaced (head?_writeKeyed (keyText k) h) (by decide)
  obtain ⟨c, w, hchars⟩ := List.exists_cons_of_ne_nil (Atom.name k).isFreeWord.1
  have hchar : isIdentifierChar c = true :=
    (Atom.name k).isFreeWord.2.1 c (by rw [hchars]; exact List.mem_cons_self)
  have hkey : (keyText k ++ cs).head? = some c := by
    rw [keyText, show k.chars = c :: w from hchars]
    rfl
  rw [heq, head?_unspaced hkey (not_isBlank_of_isIdentifierChar hchar)] at hblock
  cases hblock
  exact absurd hchar (by decide)

/-- The key of an entry is kept apart from its value exactly if the value stands in brackets or has
no logic and conditionals outside its groups. Every other value becomes a block with the key as
part of the first operand. -/
theorem entry_script (k : Name) (e : Expression) (level : Nat) :
    toScript (String.ofList (mapText (keyText k ++ e.within level (e.write formulaStyle)))) =
        String.ofList (mapText (e.withinKeyed level (keyText k) (e.write tightStyle)
          (e.writeKeyed tightStyle (keyText k)))) ∧
      (unspaced (toScript (String.ofList
            (mapText (keyText k ++ e.within level (e.write formulaStyle))))).toList =
          unspaced (mapText (keyText k ++
            (toScript (String.ofList (e.within level (e.write formulaStyle)))).toList)) ↔
        e.level < level ∨ 3 ≤ e.level) := by
  have hscript := toScript_entry k e level
  refine ⟨hscript, ?_⟩
  rw [hscript, toScript_within, String.toList_ofList, String.toList_ofList, unspaced_mapText_inj]
  unfold Expression.withinKeyed Expression.within
  by_cases hlevel : e.level < level
  · rw [if_pos hlevel, if_pos hlevel]
    exact iff_of_true rfl (.inl hlevel)
  · rw [if_neg hlevel, if_neg hlevel]
    by_cases hblock : e.level < 3
    · exact iff_of_false (unspaced_writeKeyed_ne k hblock _) (by omega)
    · rw [Expression.writeKeyed_eq _ _ (Nat.le_of_not_lt hblock)]
      exact iff_of_true rfl (.inr (Nat.le_of_not_lt hblock))

/-- The key of an entry becomes part of the condition of its value. -/
theorem key_in_condition :
    toScript "#\x7bk: a ? b : c\x7d" = "#\x7b(if truthy(k: a) \x7b b \x7d else \x7b c \x7d)\x7d" ∧
      unspaced (toScript "#\x7bk: a ? b : c\x7d").toList ≠
        unspaced ("#\x7bk: " ++ toScript "a ? b : c" ++ "\x7d").toList := by
  constructor
  · decide +kernel
  · decide +kernel

end FormulaSheet.Desugaring
