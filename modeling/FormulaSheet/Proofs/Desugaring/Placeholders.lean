import FormulaSheet.Proofs.Desugaring.Literals

/-!
Code that holds placeholders in order (`Holding`), and nothing else of what they and literals are
made of. Such code can be cut next to any character that placeholders do not have, and any stretch
without placeholders can give way to other clean text (`Keeps`): so placeholders are neither lost,
repeated nor moved, whatever is replaced around them.
-/

namespace FormulaSheet.Desugaring

/-- Whether placeholders are made of a character. -/
def isSlotChar (c : Char) : Bool := c == '@' || Text.isAsciiDigit c

/-- Text with nothing that placeholders begin with and no quotes. -/
def IsClean (cs : List Char) : Prop := ∀ c ∈ cs, c ≠ '@' ∧ isQuote c = false

instance (cs : List Char) : Decidable (IsClean cs) := List.decidableBAll _ cs

/-- Clean text around the placeholders with the numbers from `i` up to `j`, in this order. -/
inductive Holding : Nat → Nat → List Char → Prop
  | nil (i : Nat) : Holding i i []
  | char {i j : Nat} {c : Char} {cs : List Char} : c ≠ '@' → isQuote c = false → Holding i j cs →
    Holding i j (c :: cs)
  | slot {i j : Nat} {cs : List Char} : Holding (i + 1) j cs → Holding i j (placeholder i ++ cs)

variable {i j k : Nat} {a b cs : List Char} {c : Char}

theorem ne_at_of_not_isSlotChar (h : isSlotChar c = false) : c ≠ '@' := by
  rintro rfl
  exact absurd h (by decide)

/-- A class of characters with neither `@` nor anything that names are made of has nothing that
placeholders are made of. -/
theorem not_isSlotChar {p : Char → Bool} (hat : p '@' = false)
    (hname : ∀ c, isIdentifierChar c = true → p c = false) (h : p c = true) :
    isSlotChar c = false := by
  cases hslot : isSlotChar c with
  | false => rfl
  | true =>
    simp only [isSlotChar, Bool.or_eq_true, beq_iff_eq] at hslot
    rcases hslot with rfl | hdigit
    · exact absurd (h.symm.trans hat) (by decide)
    · have hidentifier : isIdentifierChar c = true := by
        simp [isIdentifierChar, Text.isAsciiAlphanumeric, hdigit]
      exact absurd (h.symm.trans (hname c hidentifier)) (by decide)

theorem isSlotChar_of_mem_placeholder {n : Nat} (h : c ∈ placeholder n) : isSlotChar c = true := by
  simp only [placeholder, List.mem_append] at h
  rcases h with (h | h) | h
  · have hall : "@@@".toList.all isSlotChar = true := by decide
    exact List.all_eq_true.mp hall c h
  · simp [isSlotChar, isAsciiDigit_of_mem_toDigits h]
  · have hall : "@@@".toList.all isSlotChar = true := by decide
    exact List.all_eq_true.mp hall c h

theorem placeholder_ne_nil (n : Nat) : placeholder n ≠ [] := by
  simp [placeholder]

theorem isClean_of_forall {p : Char → Bool} (hat : p '@' = false)
    (hquotes : p '"' = false ∧ p '\'' = false ∧ p '`' = false) (h : ∀ c ∈ cs, p c = true) :
    IsClean cs := by
  intro c hc
  have hp := h c hc
  constructor
  · rintro rfl
    exact absurd (hp.symm.trans hat) (by decide)
  · cases hquote : isQuote c with
    | false => rfl
    | true =>
      simp only [isQuote, Bool.or_eq_true, beq_iff_eq] at hquote
      obtain ⟨hdouble, hsingle, hback⟩ := hquotes
      rcases hquote with (rfl | rfl) | rfl
      · exact absurd (hp.symm.trans hdouble) (by decide)
      · exact absurd (hp.symm.trans hsingle) (by decide)
      · exact absurd (hp.symm.trans hback) (by decide)

theorem IsClean.not_mem (h : IsClean cs) : '@' ∉ cs := fun hat => (h '@' hat).1 rfl

theorem IsClean.append (ha : IsClean a) (hb : IsClean b) : IsClean (a ++ b) := by
  intro c hc
  rcases List.mem_append.mp hc with hc | hc
  · exact ha c hc
  · exact hb c hc

/-! ## Building and cutting -/

theorem holding_of_isClean (h : IsClean cs) (i : Nat) : Holding i i cs := by
  induction cs with
  | nil => exact .nil i
  | cons c cs ih =>
    obtain ⟨⟨hat, hquote⟩, hcs⟩ := List.forall_mem_cons.mp h
    exact .char hat hquote (ih hcs)

theorem Holding.append (ha : Holding i j a) (hb : Holding j k b) : Holding i k (a ++ b) := by
  induction ha with
  | nil => exact hb
  | char hat hquote _ ih => exact .char hat hquote (ih hb)
  | slot _ ih =>
    rw [List.append_assoc]
    exact .slot (ih hb)

/-- What is no placeholder can be taken off the front. -/
theorem Holding.of_cons (h : Holding i j (c :: cs)) (hc : c ≠ '@') :
    isQuote c = false ∧ Holding i j cs := by
  generalize hcs : c :: cs = text at h
  cases h with
  | nil => cases hcs
  | char _ hquote hrest =>
    obtain ⟨rfl, rfl⟩ := List.cons.inj hcs
    exact ⟨hquote, hrest⟩
  | slot _ => exact absurd (List.cons.inj hcs).1 hc

theorem Holding.drop (h : Holding i j (a ++ b)) (ha : '@' ∉ a) : Holding i j b := by
  induction a with
  | nil => exact h
  | cons c a ih =>
    obtain ⟨hc, ha⟩ := not_or.mp (mt List.mem_cons.mpr ha)
    exact ih (h.of_cons (Ne.symm hc)).2 ha

theorem Holding.eq_of_nil (h : Holding i j []) : i = j := by
  generalize hcs : [] = text at h
  cases h with
  | nil => rfl
  | char => cases hcs
  | slot _ => exact absurd (List.append_eq_nil_iff.mp hcs.symm).1 (placeholder_ne_nil i)

theorem Holding.eq_of_not_mem (h : Holding i j cs) (hat : '@' ∉ cs) : i = j := by
  have hnil : Holding i j (cs ++ []) := by rwa [List.append_nil]
  exact (hnil.drop hat).eq_of_nil

/-- Where a text can be cut: on one side there is no character of placeholders. -/
def IsCut (a b : List Char) : Prop :=
  (∀ c ∈ a.getLast?, isSlotChar c = false) ∨ ∀ c ∈ b.head?, isSlotChar c = false

theorem Holding.split (h : Holding i k (a ++ b)) (hcut : IsCut a b) :
    ∃ j, Holding i j a ∧ Holding j k b := by
  generalize htext : a ++ b = text at h
  induction h generalizing a with
  | nil i =>
    obtain ⟨rfl, rfl⟩ := List.append_eq_nil_iff.mp htext
    exact ⟨i, .nil i, .nil i⟩
  | @char i k c cs hat hquote hrest ih =>
    cases a with
    | nil =>
      rw [List.nil_append] at htext
      exact ⟨i, .nil i, htext ▸ .char hat hquote hrest⟩
    | cons d a =>
      obtain ⟨rfl, htail⟩ := List.cons.inj htext
      have hcut' : IsCut a b := by
        refine hcut.imp_left fun hlast c hc => hlast c ?_
        cases a with
        | nil => cases hc
        | cons e a => rwa [List.getLast?_cons_cons]
      obtain ⟨j, ha, hb⟩ := ih hcut' htail
      exact ⟨j, .char hat hquote ha, hb⟩
  | @slot i k cs hrest ih =>
    rcases List.append_eq_append_iff.mp htext with ⟨x, hx, rfl⟩ | ⟨x, rfl, hx⟩
    · -- the cut is at one end of the placeholder, since all of its characters belong to it
      rcases List.eq_nil_or_concat a with rfl | ⟨a, c, rfl⟩
      · exact ⟨i, .nil i, by rw [← List.nil_append x, ← hx]; exact .slot hrest⟩
      · rw [List.concat_eq_append] at hx hcut ⊢
        cases x with
        | nil =>
          rw [List.append_nil] at hx
          rw [← hx, ← List.append_nil (placeholder i)]
          exact ⟨i + 1, .slot (.nil _), hrest⟩
        | cons d x =>
          have hc : isSlotChar c = true := isSlotChar_of_mem_placeholder (n := i) (by simp [hx])
          have hd : isSlotChar d = true := isSlotChar_of_mem_placeholder (n := i) (by simp [hx])
          rcases hcut with hlast | hhead
          · exact absurd (hlast c (by simp)) (by simp [hc])
          · exact absurd (hhead d (by simp)) (by simp [hd])
    · have hcut' : IsCut x b := by
        refine hcut.imp_left fun hlast c hc => hlast c ?_
        rw [Option.mem_def] at hc ⊢
        rw [List.getLast?_append, hc]
        rfl
      obtain ⟨j, ha, hb⟩ := ih hcut' hx.symm
      exact ⟨j, .slot ha, hb⟩

/-- Code can be cut before any character that placeholders do not have, and goes on after it. -/
theorem Holding.split_cons (h : Holding i k (a ++ c :: b)) (hc : isSlotChar c = false) :
    ∃ j, Holding i j a ∧ isQuote c = false ∧ Holding j k b := by
  have hcut : IsCut a (c :: b) := .inr fun d hd => by cases hd; exact hc
  obtain ⟨j, ha, hb⟩ := h.split hcut
  obtain ⟨hquote, hb⟩ := hb.of_cons (ne_at_of_not_isSlotChar hc)
  exact ⟨j, ha, hquote, hb⟩

/-! ## Outlines -/

/-- An outline of clean text around its blanks. -/
def IsCode (o : List (Option Char)) : Prop := ∀ c, some c ∈ o → c ≠ '@' ∧ isQuote c = false

/-- Code that holds placeholders is some outline with these in its blanks. -/
theorem Holding.exists_outline (h : Holding i j cs) :
    ∃ o, cs = coded i o ∧ j = i + o.count none ∧ IsCode o := by
  induction h with
  | nil i => exact ⟨[], rfl, rfl, by simp [IsCode]⟩
  | @char i j c cs hat hquote _ ih =>
    obtain ⟨o, rfl, rfl, ho⟩ := ih
    refine ⟨some c :: o, rfl, by simp, fun d hd => ?_⟩
    rcases List.mem_cons.mp hd with hdc | hmem
    · cases hdc
      exact ⟨hat, hquote⟩
    · exact ho d hmem
  | @slot i j cs _ ih =>
    obtain ⟨o, rfl, rfl, ho⟩ := ih
    refine ⟨none :: o, rfl, ?_, fun d hd => ho d (by simpa using hd)⟩
    rw [List.count_cons_self]
    omega

theorem holding_coded {o : List (Option Char)} (ho : IsCode o) (i : Nat) :
    Holding i (i + o.count none) (coded i o) := by
  induction o generalizing i with
  | nil => exact .nil i
  | cons x o ih =>
    have hrest : IsCode o := fun c hc => ho c (List.mem_cons_of_mem x hc)
    cases x with
    | some c =>
      obtain ⟨hat, hquote⟩ := ho c List.mem_cons_self
      rw [List.count_cons_of_ne (by simp), coded]
      exact .char hat hquote (ih hrest i)
    | none =>
      have hcount : i + (none :: o).count none = i + 1 + o.count none := by
        rw [List.count_cons_self]
        omega
      rw [hcount]
      exact .slot (ih hrest (i + 1))

/-! ## Replacements -/

/-- A function of code that leaves the placeholders in it. -/
def Preserves (f : List Char → List Char) : Prop :=
  ∀ ⦃i j : Nat⦄ ⦃cs : List Char⦄, Holding i j cs → Holding i j (f cs)

/-- A rule whose replacement leaves the placeholders in the code around. -/
def Keeps (rule : Rule) : Prop :=
  ∀ ⦃before : Option Char⦄ ⦃cs new : List Char⦄ ⦃n : Nat⦄, rule before cs = some (new, n) →
    0 < n ∧ ∀ ⦃out : List Char⦄ ⦃i j : Nat⦄, Holding i j (out ++ cs) →
      Holding i j (out ++ (new ++ cs.drop n))

theorem Keeps.replaceFrom {rule : Rule} (h : Keeps rule) {before : Option Char} {skip : Nat}
    {out : List Char} (hcs : Holding i j (out ++ cs.drop skip)) :
    Holding i j (out ++ replaceFrom rule before skip cs) := by
  induction cs generalizing before skip out with
  | nil => simpa [Desugaring.replaceFrom] using hcs
  | cons c cs ih =>
    cases skip with
    | succ skip => exact ih hcs
    | zero =>
      rw [List.drop_zero] at hcs
      cases hrule : rule before (c :: cs) with
      | none =>
        have hdrop : Holding i j ((out ++ [c]) ++ cs.drop 0) := by simpa using hcs
        have hrest : Holding i j ((out ++ [c]) ++ Desugaring.replaceFrom rule (some c) 0 cs) :=
          ih hdrop
        simpa [Desugaring.replaceFrom, hrule] using hrest
      | some found =>
        obtain ⟨new, n⟩ := found
        obtain ⟨hn, hnew⟩ := h hrule
        obtain ⟨n, rfl⟩ : ∃ m, n = m + 1 := Nat.exists_eq_succ_of_ne_zero (by omega)
        have hdrop : Holding i j ((out ++ new) ++ cs.drop n) := by simpa using hnew hcs
        have hrest : Holding i j ((out ++ new) ++ Desugaring.replaceFrom rule (some c) n cs) :=
          ih hdrop
        simpa [Desugaring.replaceFrom, hrule] using hrest

theorem Keeps.replaceAll {rule : Rule} (h : Keeps rule) : Preserves (replaceAll rule) := by
  intro i j cs hcs
  have hall : Holding i j ([] ++ Desugaring.replaceFrom rule none 0 cs) := h.replaceFrom hcs
  exact hall

/-- A stretch without placeholders, which begins with no character of theirs, can give way to clean
text. -/
theorem Holding.swap {put : List Char} (h : Holding i j (a ++ (c :: cs ++ b)))
    (hc : isSlotChar c = false) (hcs : '@' ∉ cs) (hput : IsClean put) :
    Holding i j (a ++ (put ++ b)) := by
  obtain ⟨k, ha, -, hrest⟩ := h.split_cons hc
  exact ha.append ((holding_of_isClean hput k).append (hrest.drop hcs))

end FormulaSheet.Desugaring
