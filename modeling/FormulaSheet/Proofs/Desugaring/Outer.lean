import FormulaSheet.Proofs.Desugaring.Layout

/-!
Expressions halfway through the desugaring: their groups are desugared (`tightStyle`), and the
operators outside all groups are still those of formulas (`Expression.outer`). How tightly an
expression binds tells which marks stand outside its groups (`isOuterChar`).
-/

namespace FormulaSheet.Desugaring

/-! ## Blocks -/

/-- The style of desugared texts: a block loses the blank after the comma before it. -/
def tightStyle : Style :=
  { scriptStyle with comma := fun e => if e.level < 3 then [','] else [',', ' '] }

def braced (cs : List Char) : List Char := '\x7b' :: (" ".toList ++ (cs ++ [' ', '\x7d']))

theorem balanced_braced {cs : List Char} (h : Balanced cs) : Balanced (braced cs) := by
  have hspace : Balanced [' '] := balanced_plain (by decide)
  have hbraces : Balanced ('\x7b' :: (([' '] ++ (cs ++ [' '])) ++ ['\x7d'])) :=
    .bracketed (hspace.append (h.append hspace)) rfl
  simpa [braced] using hbraces

theorem isLaidOut_chooseBlock {left a b : List Char} (hleft : Balanced left) (ha : Balanced a)
    (hb : Balanced b) : IsLaidOut (chooseBlock left a b) := by
  have hblock : chooseBlock left a b = bracketed (braced ("let js_lhs = ".toList ++ (left ++
      ("; if truthy".toList ++ (bracketed heldName ++ (" ".toList ++ (braced a ++
        (" else ".toList ++ braced b)))))))) := by
    unfold chooseBlock bracketed braced heldName
    simp only [String.reduceToList, List.append_assoc, List.cons_append, List.nil_append]
  have hlet : Balanced "let js_lhs = ".toList := balanced_plain (by decide)
  have hif : Balanced "; if truthy".toList := balanced_plain (by decide)
  have hname : Balanced (bracketed heldName) := .bracketed (balanced_plain (by decide)) rfl
  have hspace : Balanced " ".toList := balanced_plain (by decide)
  have helse : Balanced " else ".toList := balanced_plain (by decide)
  rw [hblock]
  exact isLaidOut_bracketed (balanced_braced (hlet.append (hleft.append (hif.append (hname.append
    (hspace.append ((balanced_braced ha).append (helse.append (balanced_braced hb)))))))))

theorem isLaidOut_ifBlock {c a b : List Char} (hc : Balanced c) (ha : Balanced a)
    (hb : Balanced b) : IsLaidOut (ifBlock c a b) := by
  have hblock : ifBlock c a b = bracketed ("if truthy".toList ++ (bracketed c ++ (" ".toList ++
      (braced a ++ (" else ".toList ++ braced b))))) := by
    unfold ifBlock bracketed braced
    simp only [String.reduceToList, List.append_assoc, List.cons_append, List.nil_append]
  have hif : Balanced "if truthy".toList := balanced_plain (by decide)
  have hspace : Balanced " ".toList := balanced_plain (by decide)
  have helse : Balanced " else ".toList := balanced_plain (by decide)
  rw [hblock]
  exact isLaidOut_bracketed (hif.append (Grouped.append (.bracketed hc rfl) (hspace.append
    ((balanced_braced ha).append (helse.append (balanced_braced hb))))))

theorem scriptStyle_and (a b : List Char) : scriptStyle.and a b = andBlock a b := by
  unfold scriptStyle andBlock chooseBlock heldName
  simp only [String.reduceToList, List.append_assoc, List.cons_append, List.nil_append]

theorem scriptStyle_or (a b : List Char) : scriptStyle.or a b = orBlock a b := by
  unfold scriptStyle orBlock chooseBlock heldName
  simp only [String.reduceToList, List.append_assoc, List.cons_append, List.nil_append]

theorem isSound_tightStyle : tightStyle.IsSound where
  not ha := isLaidOut_not ha.balanced
  and ha hb := by
    change IsLaidOut (scriptStyle.and _ _)
    rw [scriptStyle_and]
    exact isLaidOut_chooseBlock ha.balanced hb.balanced (balanced_plain (by decide))
  or ha hb := by
    change IsLaidOut (scriptStyle.or _ _)
    rw [scriptStyle_or]
    exact isLaidOut_chooseBlock ha.balanced (balanced_plain (by decide)) hb.balanced
  cond hc ha hb := isLaidOut_ifBlock hc.balanced ha.balanced hb.balanced
  comma e := by
    change Balanced (if e.level < 3 then _ else _)
    split
    · exact balanced_plain (by decide)
    · exact balanced_plain (by decide)

/-! ## Texts with desugared groups -/

/-- An operand with desugared groups, in a place that asks for some level; `text` is the operand
without brackets. -/
def Expression.operand (e : Expression) (level : Nat) (text : List Char) : List Char :=
  if e.level < level then bracketed (e.write tightStyle) else text

/-- The text of an expression in which the groups are desugared and nothing else. -/
def Expression.outer : Expression → List Char
  | .and a b => formulaStyle.and (a.operand 2 a.outer) (b.operand 3 b.outer)
  | .or a b => formulaStyle.or (a.operand 1 a.outer) (b.operand 2 b.outer)
  | .cond c a b => formulaStyle.cond (c.operand 1 c.outer) a.outer b.outer
  | e => e.write tightStyle

theorem Expression.outer_eq {e : Expression} (h : 3 ≤ e.level) : e.outer = e.write tightStyle := by
  cases e with
  | and => simp [Expression.level] at h
  | or => simp [Expression.level] at h
  | cond => simp [Expression.level] at h
  | _ => rfl

/-- Where the place asks for a negation or more, there is nothing left to do. -/
theorem Expression.operand_eq {e : Expression} {level : Nat} (h : 3 ≤ level) :
    e.operand level e.outer = e.within level (e.write tightStyle) := by
  unfold Expression.operand Expression.within
  split
  · rfl
  · rw [Expression.outer_eq (by omega)]

theorem exists_operand (e : Expression) (level : Nat) (text : List Char) :
    (e.level < level ∧ e.operand level text = bracketed (e.write tightStyle) ∧
        e.within level (e.write tightStyle) = bracketed (e.write tightStyle)) ∨
      (level ≤ e.level ∧ e.operand level text = text ∧
        e.within level (e.write tightStyle) = e.write tightStyle) := by
  unfold Expression.operand Expression.within
  split
  · exact .inl ⟨‹_›, rfl, rfl⟩
  · exact .inr ⟨Nat.le_of_not_lt ‹_›, rfl, rfl⟩

theorem isLaidOut_operand {e : Expression} (h : IsLaidOut e.outer) (level : Nat) :
    IsLaidOut (e.operand level e.outer) := by
  unfold Expression.operand
  split
  · exact isLaidOut_bracketed (isLaidOut_write isSound_tightStyle e).balanced
  · exact h

theorem isLaidOut_outer (e : Expression) : IsLaidOut e.outer := by
  induction e using Expression.induct with
  | and a b iha ihb =>
    exact isSound_formulaStyle.and (isLaidOut_operand iha 2) (isLaidOut_operand ihb 3)
  | or a b iha ihb =>
    exact isSound_formulaStyle.or (isLaidOut_operand iha 1) (isLaidOut_operand ihb 2)
  | cond c a b ihc iha ihb =>
    exact isSound_formulaStyle.cond (isLaidOut_operand ihc 1) iha ihb
  | _ => exact isLaidOut_write isSound_tightStyle _

/-! ## Characters outside all groups -/

/-- A character outside all groups of an expression that binds as tightly as a level. -/
def isOuterChar (level : Nat) (c : Char) : Bool :=
  isIdentifierChar c || c == ' ' || c == '!' || (level ≤ 2 && c == '&') ||
    (level ≤ 1 && c == '|') || (level == 0 && (c == '?' || c == ':'))

theorem isOuterChar_mono {level level' : Nat} (h : level ≤ level') (c : Char)
    (hc : isOuterChar level' c = true) : isOuterChar level c = true := by
  simp only [isOuterChar, Bool.or_eq_true, Bool.and_eq_true, decide_eq_true_eq, beq_iff_eq] at hc ⊢
  grind

theorem isOuterChar_of_isIdentifierChar (level : Nat) (c : Char) (h : isIdentifierChar c = true) :
    isOuterChar level c = true := by
  simp [isOuterChar, h]

theorem grouped_operand {e : Expression} (h : Grouped (isOuterChar e.level) e.outer)
    {level place : Nat} (hplace : level ≤ place) :
    Grouped (isOuterChar level) (e.operand place e.outer) := by
  unfold Expression.operand
  split
  · exact .bracketed (isLaidOut_write isSound_tightStyle e).balanced rfl
  · exact h.mono (isOuterChar_mono (by omega))

theorem grouped_outer (e : Expression) : Grouped (isOuterChar e.level) e.outer := by
  induction e using Expression.induct with
  | not e _ =>
    have hnot : Grouped (isOuterChar 3) "!truthy".toList := .of_all (by decide)
    exact hnot.append (.bracketed ((isLaidOut_write isSound_tightStyle e).within 3).balanced rfl)
  | and a b iha ihb =>
    have hand : Grouped (isOuterChar 2) " && ".toList := .of_all (by decide)
    exact (grouped_operand iha (Nat.le_refl 2)).append
      (hand.append (grouped_operand ihb (Nat.le_succ 2)))
  | or a b iha ihb =>
    have hor : Grouped (isOuterChar 1) " || ".toList := .of_all (by decide)
    exact (grouped_operand iha (Nat.le_refl 1)).append
      (hor.append (grouped_operand ihb (Nat.le_succ 1)))
  | cond c a b ihc iha ihb =>
    have hquestion : Grouped (isOuterChar 0) " ? ".toList := .of_all (by decide)
    have hcolon : Grouped (isOuterChar 0) " : ".toList := .of_all (by decide)
    exact (grouped_operand ihc (Nat.le_succ 0)).append (hquestion.append
      ((iha.mono (isOuterChar_mono (Nat.zero_le _))).append (hcolon.append
        (ihb.mono (isOuterChar_mono (Nat.zero_le _))))))
  | _ =>
    refine (grouped_write isSound_tightStyle ?_).mono (isOuterChar_of_isIdentifierChar _)
    exact Nat.le_refl 4

/-! ## Keys -/

/-- A character outside all groups of a part: the part may be an entry of a map, so that a colon
may stand in front of the expression, or it may be a map. -/
def isPartChar (level : Nat) (c : Char) : Bool := isOuterChar level c || c == ':' || c == '#'

theorem isPartChar_of_isOuterChar {level level' : Nat} (h : level ≤ level') (c : Char)
    (hc : isOuterChar level' c = true) : isPartChar level c = true := by
  simp [isPartChar, isOuterChar_mono h c hc]

theorem isPartChar_mono {level level' : Nat} (h : level ≤ level') (c : Char)
    (hc : isPartChar level' c = true) : isPartChar level c = true := by
  simp only [isPartChar, Bool.or_eq_true] at hc ⊢
  exact hc.imp_left (Or.imp_left (isOuterChar_mono h c))

/-- What may stand in a part before its expression: nothing, or the key of an entry. -/
structure IsKey (key : List Char) : Prop where
  chars : Grouped (isPartChar 3) key
  layout {cs : List Char} : IsLaidOut cs → IsLaidOut (key ++ cs)

theorem isKey_nil : IsKey [] := ⟨.nil _, id⟩

theorem isKey_keyText (k : Name) : IsKey (keyText k) where
  chars := by
    have hname : Grouped (isOuterChar 3) k.chars :=
      (Atom.name k).isFreeWord.grouped.mono (isOuterChar_of_isIdentifierChar 3)
    exact (hname.mono (isPartChar_of_isOuterChar (Nat.le_refl 3))).append (.of_all (by decide))
  layout h := by
    rw [keyText, List.append_assoc]
    exact (Atom.name k).isFreeWord.isLaidOut.append (fun c hc => by cases hc; rfl)
      (balanced_plain (by decide)) ⟨h.trimmed, h.balanced⟩

section

variable {key cs : List Char} {e : Expression} {level : Nat}

theorem IsKey.grouped (hkey : IsKey key) (hlevel : level ≤ 3) (h : Grouped (isOuterChar level) cs) :
    Grouped (isPartChar level) (key ++ cs) :=
  (hkey.chars.mono (isPartChar_mono hlevel)).append
    (h.mono (isPartChar_of_isOuterChar (Nat.le_refl level)))

theorem IsKey.grouped_keyed (hkey : IsKey key) (hlevel : level ≤ 3) (h : level ≤ e.level) :
    Grouped (isPartChar level) (key ++ e.outer) :=
  hkey.grouped hlevel ((grouped_outer e).mono (isOuterChar_mono h))

theorem IsKey.isLaidOut_keyed (hkey : IsKey key) (e : Expression) : IsLaidOut (key ++ e.outer) :=
  hkey.layout (isLaidOut_outer e)

/-- In brackets the operand is a group behind its key. -/
theorem IsKey.grouped_bracketed (hkey : IsKey key) (e : Expression) :
    Grouped (isPartChar 3) (key ++ bracketed (e.write tightStyle)) ∧
      IsLaidOut (key ++ bracketed (e.write tightStyle)) := by
  have hbalanced := (isLaidOut_write isSound_tightStyle e).balanced
  exact ⟨hkey.chars.append (.bracketed hbalanced rfl), hkey.layout (isLaidOut_bracketed hbalanced)⟩

theorem exists_operand_keyed (e : Expression) (level : Nat) (key : List Char) :
    (e.level < level ∧ key ++ e.operand level e.outer = key ++ bracketed (e.write tightStyle) ∧
        e.withinKeyed level key (e.write tightStyle) (e.writeKeyed tightStyle key) =
          key ++ bracketed (e.write tightStyle)) ∨
      (level ≤ e.level ∧ key ++ e.operand level e.outer = key ++ e.outer ∧
        e.withinKeyed level key (e.write tightStyle) (e.writeKeyed tightStyle key) =
          e.writeKeyed tightStyle key) := by
  unfold Expression.operand Expression.withinKeyed
  split
  · exact .inl ⟨‹_›, rfl, rfl⟩
  · exact .inr ⟨Nat.le_of_not_lt ‹_›, rfl, rfl⟩

end

end FormulaSheet.Desugaring
