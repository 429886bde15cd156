import FormulaSheet.Proofs.Number.Doubles
import FormulaSheet.Proofs.Number.Grammar
import Mathlib.Data.List.Induction

/-!
Whole numbers in base sixteen, eight and two. They are digits behind a zero and the letter that
tells the base. Their readers take the digits of the base and nothing else
(`wholeInBase?_eq_some_iff`), but only up to sixty-four bits, and a plus sign before the digits
(`isNaN_ofBase`).
-/

namespace FormulaSheet.Number

/-! ## Digits of a base -/

/-- A character stands for a digit; the letters are of either case. -/
def IsDigitOf (base : Nat) (c : Char) (d : Nat) : Prop :=
  d < base ∧ (c = Nat.digitChar d ∨ c = (Nat.digitChar d).toUpper)

/-- One digit or more of a base, and the number that they write. -/
inductive IsWhole (base : Nat) : List Char → Nat → Prop
  | digit {c : Char} {d : Nat} (hc : IsDigitOf base c d) : IsWhole base [c] d
  | snoc {ds : List Char} {c : Char} {n d : Nat} (hds : IsWhole base ds n)
      (hc : IsDigitOf base c d) : IsWhole base (ds ++ [c]) (base * n + d)

variable {base n d : Nat} {c mark : Char} {cs ds t : List Char}

theorem digitValue?_digitChar : ∀ d : Fin 16, digitValue? (Nat.digitChar d) = some d.val ∧
    digitValue? (Nat.digitChar d).toUpper = some d.val := by
  decide

theorem between_iff (a b : Char) : a ≤ c ∧ c ≤ b ↔ a.toNat ≤ c.toNat ∧ c.toNat ≤ b.toNat := by
  simp [Char.le_def, UInt32.le_iff_toNat_le]

/-- The code points of characters that have a value. -/
theorem toNat_of_digitValue? (h : digitValue? c = some d) :
    d < 10 ∧ c.toNat = d + 48 ∨ 10 ≤ d ∧ (c.toNat = d + 87 ∨ c.toNat = d + 55) := by
  have h0 : '0'.toNat = 48 := rfl
  have h9 : '9'.toNat = 57 := rfl
  have ha : 'a'.toNat = 97 := rfl
  have hA : 'A'.toNat = 65 := rfl
  simp only [digitValue?, between_iff] at h
  split at h
  · cases h
    omega
  split at h
  · cases h
    omega
  split at h
  · cases h
    omega
  · cases h

theorem digitChar_of_digitValue? (h : digitValue? c = some d) (hd : d < 16) :
    c = Nat.digitChar d ∨ c = (Nat.digitChar d).toUpper := by
  have hcodes : ∀ d : Fin 16,
      (d.val < 10 → Char.ofNat (d + 48) = Nat.digitChar d) ∧
      (10 ≤ d.val → Char.ofNat (d + 87) = Nat.digitChar d ∧
        Char.ofNat (d + 55) = (Nat.digitChar d).toUpper) := by
    decide
  obtain ⟨hdigit, hletter⟩ := hcodes ⟨d, hd⟩
  rw [← Char.ofNat_toNat c]
  rcases toNat_of_digitValue? h with ⟨hsmall, hc⟩ | ⟨hlarge, hc | hc⟩
  · rw [hc]
    exact .inl (hdigit hsmall)
  · rw [hc]
    exact .inl (hletter hlarge).1
  · rw [hc]
    exact .inr (hletter hlarge).2

theorem isDigitOf_iff (hbase : base ≤ 16) :
    IsDigitOf base c d ↔ d < base ∧ digitValue? c = some d := by
  refine and_congr_right fun hd => ⟨?_, fun h => digitChar_of_digitValue? h (by omega)⟩
  obtain ⟨hlower, hupper⟩ := digitValue?_digitChar ⟨d, by omega⟩
  rintro (rfl | rfl)
  · exact hlower
  · exact hupper

theorem wholeInBase?_append (base : Nat) (cs ds : List Char) (n : Nat) :
    wholeInBase? base (cs ++ ds) n =
      (wholeInBase? base cs n).bind (wholeInBase? base ds) := by
  induction cs generalizing n with
  | nil => rfl
  | cons c cs ih =>
    simp only [List.cons_append, wholeInBase?]
    split
    · split
      · exact ih _
      · rfl
    · rfl

theorem wholeInBase?_singleton {m : Nat} (hbase : base ≤ 16) :
    wholeInBase? base [c] n = some m ↔ ∃ d, IsDigitOf base c d ∧ m = base * n + d := by
  simp only [isDigitOf_iff hbase, wholeInBase?]
  split
  · rename_i d hd
    simp only [hd, Option.some.injEq]
    split
    · rename_i hlt
      constructor
      · rintro ⟨⟩
        exact ⟨d, ⟨hlt, rfl⟩, rfl⟩
      · rintro ⟨d, ⟨-, rfl⟩, rfl⟩
        rfl
    · rename_i hge
      refine iff_of_false nofun ?_
      rintro ⟨d, ⟨hlt, rfl⟩, -⟩
      exact hge hlt
  · rename_i hnone
    simp [hnone]

/-- The digits of a base are read, and nothing else is. -/
theorem wholeInBase?_eq_some_iff (hbase : base ≤ 16) :
    ds ≠ [] ∧ wholeInBase? base ds 0 = some n ↔ IsWhole base ds n := by
  constructor
  · rintro ⟨hne, hread⟩
    induction ds using List.reverseRecOn generalizing n with
    | nil => exact absurd rfl hne
    | append_singleton ds c ih =>
      rw [wholeInBase?_append] at hread
      obtain ⟨m, hm, hlast⟩ := Option.bind_eq_some_iff.mp hread
      obtain ⟨d, hd, rfl⟩ := (wholeInBase?_singleton hbase).mp hlast
      by_cases hds : ds = []
      · subst hds
        cases hm
        rw [Nat.mul_zero, Nat.zero_add]
        exact .digit hd
      · exact .snoc (ih hds hm) hd
  · intro h
    induction h with
    | @digit c d hc =>
      exact ⟨List.cons_ne_nil _ _, (wholeInBase?_singleton hbase).mpr ⟨d, hc, by omega⟩⟩
    | @snoc ds c n d hds hc ih =>
      refine ⟨by simp, ?_⟩
      rw [wholeInBase?_append, ih.2]
      exact (wholeInBase?_singleton hbase).mpr ⟨d, hc, rfl⟩

theorem IsWhole.unique {m : Nat} (hbase : base ≤ 16) (hn : IsWhole base ds n)
    (hm : IsWhole base ds m) : n = m := by
  have hread := ((wholeInBase?_eq_some_iff hbase).mpr hn).2
  rw [((wholeInBase?_eq_some_iff hbase).mpr hm).2] at hread
  exact (Option.some.inj hread).symm

/-- Digits begin with no sign. -/
theorem IsWhole.not_plus (hbase : base ≤ 16) : ¬ IsWhole base ('+' :: ds) n := by
  intro h
  have hread := ((wholeInBase?_eq_some_iff hbase).mpr h).2
  cases hread

/-- Numbers of sixty-four bits are read. -/
theorem isNaN_ofBaseDigits (hbase : base ≤ 16) (ds : List Char) :
    (ofBaseDigits base ds).isNaN = false ↔ ∃ n < Nat.pow 2 64, IsWhole base ds n := by
  simp only [← wholeInBase?_eq_some_iff hbase]
  unfold ofBaseDigits
  split
  · rename_i hnil
    rw [isNaN_nan]
    exact iff_of_false nofun fun ⟨n, _, hsome, _⟩ => hsome (List.isEmpty_iff.mp hnil)
  · rename_i hne
    have hds : ds ≠ [] := fun hnil => hne (List.isEmpty_iff.mpr hnil)
    split
    · rename_i n hn
      split
      · rename_i hfits
        exact iff_of_true (isNaN_ofNat n) ⟨n, hfits, hds, hn⟩
      · rename_i hlong
        rw [isNaN_nan]
        refine iff_of_false nofun ?_
        rintro ⟨m, hfits, -, hm⟩
        cases hn.symm.trans hm
        exact hlong hfits
    · rename_i hnone
      rw [isNaN_nan]
      exact iff_of_false nofun fun ⟨n, _, _, hn⟩ => nomatch hnone.symm.trans hn

/-- What is read behind a base mark: digits, or a plus sign and digits. -/
theorem isNaN_ofBase (hbase : base ≤ 16) (cs : List Char) : (ofBase base cs).isNaN = false ↔
    ∃ n < Nat.pow 2 64, IsWhole base cs n ∨ ∃ ds, cs = '+' :: ds ∧ IsWhole base ds n := by
  unfold ofBase
  split
  · rename_i ds
    rw [isNaN_ofBaseDigits hbase]
    simp [IsWhole.not_plus hbase]
  · rename_i hnot
    have hplus (n : Nat) : ¬ ∃ ds, cs = '+' :: ds ∧ IsWhole base ds n :=
      fun ⟨ds, hds, _⟩ => hnot ds hds
    rw [isNaN_ofBaseDigits hbase]
    simp only [hplus, or_false]

/-! ## Base literals -/

/-- The letter behind the zero that tells the base. -/
inductive IsBaseMark : Char → Nat → Prop
  | x : IsBaseMark 'x' 16
  | X : IsBaseMark 'X' 16
  | o : IsBaseMark 'o' 8
  | O : IsBaseMark 'O' 8
  | b : IsBaseMark 'b' 2
  | B : IsBaseMark 'B' 2

/-- A whole number behind the mark of its base, with a sign before its digits. -/
inductive IsBaseLiteral (sign : List Char) : List Char → Nat → Prop
  | intro {mark : Char} {base n : Nat} {ds : List Char} (hmark : IsBaseMark mark base)
      (hds : IsWhole base ds n) : IsBaseLiteral sign ('0' :: mark :: (sign ++ ds)) n

theorem IsBaseMark.le (h : IsBaseMark mark base) : base ≤ 16 := by
  cases h <;> decide

theorem IsBaseMark.unique {base' : Nat} (h : IsBaseMark mark base) (h' : IsBaseMark mark base') :
    base = base' := by
  cases h <;> cases h' <;> rfl

theorem ofTrimmed_of_isBaseMark (h : IsBaseMark mark base) (cs : List Char) :
    ofTrimmed ('0' :: mark :: cs) = ofBase base cs := by
  cases h <;> rfl

theorem isBaseLiteral_iff {sign : List Char} (hmark : IsBaseMark mark base) :
    IsBaseLiteral sign ('0' :: mark :: cs) n ↔ ∃ ds, cs = sign ++ ds ∧ IsWhole base ds n := by
  constructor
  · intro h
    cases h with
    | @intro _ base' n ds hmark' hds =>
      cases hmark.unique hmark'
      exact ⟨ds, rfl, hds⟩
  · rintro ⟨ds, rfl, hds⟩
    exact .intro hmark hds

theorem IsBaseLiteral.unique {m : Nat} (hn : IsBaseLiteral [] t n) (hm : IsBaseLiteral [] t m) :
    n = m := by
  cases hn with
  | intro hmark hds =>
    obtain ⟨_, rfl, hds'⟩ := (isBaseLiteral_iff hmark).mp hm
    exact hds.unique hmark.le hds'

theorem IsBaseLiteral.marked {sign : List Char} (h : IsBaseLiteral sign t n) :
    ∃ mark base cs, IsBaseMark mark base ∧ t = '0' :: mark :: cs := by
  obtain ⟨hmark, hds⟩ := h
  exact ⟨_, _, _, hmark, rfl⟩

theorem IsBaseMark.not_isDecimal (hmark : IsBaseMark mark base) (cs : List Char) :
    ¬ IsDecimal Text.isAsciiDigit ('0' :: mark :: cs) := by
  intro h
  rcases h.mem (c := mark) (by simp) with hdigit | hother
  · cases hmark <;> cases hdigit
  · cases hmark <;> simp at hother

end FormulaSheet.Number
