import FormulaSheet.Proofs.Calendar.Digits
import FormulaSheet.Query.NaturalOrder
import Mathlib.Data.List.Chain

/-!
The natural order is an order of keys. However long two runs of digits are, and whatever zeros stand
in front of them, they compare as the numbers that they denote (`compareDigits_eq`). So a run can be
replaced by a key, a number or a text in lower case, and two texts compare as the lists of the keys
of their runs (`compare_eq_of_isRuns`). Keys are totally ordered, and so texts are totally
preordered.
-/

namespace FormulaSheet

open Std

/-! ## Numbers by their digits -/

namespace Number

/-- The characters are digits. -/
def AreDigits (cs : List Char) : Prop := ∀ c ∈ cs, Text.isAsciiDigit c = true

variable {c : Char} {as bs cs : List Char}

theorem areDigits_cons : AreDigits (c :: cs) ↔ Text.isAsciiDigit c = true ∧ AreDigits cs :=
  List.forall_mem_cons

theorem ofDigits_cons (c : Char) (cs : List Char) :
    ofDigits (c :: cs) = Nat.pow 10 cs.length * (c.toNat - 48) + ofDigits cs := by
  simp only [ofDigits_eq, Nat.ofDigitChars_cons]
  rw [Nat.ofDigitChars_eq_ofDigitChars_zero, Nat.mul_zero, Nat.zero_add]
  rfl

theorem ofDigits_lt_pow (h : AreDigits cs) : ofDigits cs < Nat.pow 10 cs.length := by
  induction cs with
  | nil => decide
  | cons c cs ih =>
    obtain ⟨hc, hcs⟩ := areDigits_cons.mp h
    have hrange := Text.isAsciiDigit_iff.mp hc
    have hrest := ih hcs
    have hplace : Nat.pow 10 cs.length * (c.toNat - 48) ≤ Nat.pow 10 cs.length * 9 :=
      Nat.mul_le_mul_left _ (by omega)
    have hpow : Nat.pow 10 (cs.length + 1) = Nat.pow 10 cs.length * 10 := rfl
    rw [ofDigits_cons, List.length_cons, hpow]
    omega

theorem ofDigits_dropWhile_zero (cs : List Char) :
    ofDigits (cs.dropWhile (· == '0')) = ofDigits cs := by
  induction cs with
  | nil => rfl
  | cons c cs ih =>
    by_cases hc : c = '0'
    · subst hc
      rw [List.dropWhile_cons_of_pos (by rfl), ih, ofDigits_cons]
      simp
    · rw [List.dropWhile_cons_of_neg (by simpa using hc)]

theorem AreDigits.dropWhile_zero (h : AreDigits cs) : AreDigits (cs.dropWhile (· == '0')) :=
  fun c hc => h c (List.dropWhile_subset _ hc)

/-- A digit that is no zero stands for no less than its place. -/
theorem pow_le_ofDigits (hc : Text.isAsciiDigit c = true) (hzero : c ≠ '0') :
    Nat.pow 10 cs.length ≤ ofDigits (c :: cs) := by
  have hrange := Text.isAsciiDigit_iff.mp hc
  have hne : c.toNat ≠ 48 := fun heq => hzero (Char.toNat_inj.mp heq)
  have hplace : Nat.pow 10 cs.length * 1 ≤ Nat.pow 10 cs.length * (c.toNat - 48) :=
    Nat.mul_le_mul_left _ (by omega)
  rw [ofDigits_cons]
  omega

/-- Without zeros in front more digits are a greater number. -/
theorem ofDigits_lt_of_length_lt (has : AreDigits as) (hbs : AreDigits bs)
    (hfront : bs.head? ≠ some '0') (hlength : as.length < bs.length) :
    ofDigits as < ofDigits bs := by
  cases bs with
  | nil => cases hlength
  | cons b bs =>
    have hb : b ≠ '0' := by simpa using hfront
    calc
      ofDigits as < Nat.pow 10 as.length := ofDigits_lt_pow has
      _ ≤ Nat.pow 10 bs.length := Nat.pow_le_pow_right (by decide) (Nat.le_of_lt_succ hlength)
      _ ≤ ofDigits (b :: bs) := pow_le_ofDigits (areDigits_cons.mp hbs).1 hb

/-- Numbers with a place of more weight than what follows compare by this place first. -/
theorem compare_place {p m n : Nat} (hm : m < p) (hn : n < p) (x y : Nat) :
    (compare x y).then (compare m n) = compare (p * x + m) (p * y + n) := by
  rcases Nat.lt_trichotomy x y with hxy | rfl | hxy
  · have hplace : p * (x + 1) ≤ p * y := Nat.mul_le_mul_left p hxy
    rw [Nat.compare_eq_lt.mpr hxy, Ordering.lt_then, Nat.compare_eq_lt.mpr]
    rw [Nat.mul_add] at hplace
    omega
  · rw [Nat.compare_eq_eq.mpr rfl, Ordering.eq_then]
    rcases Nat.lt_trichotomy m n with hmn | rfl | hmn
    · rw [Nat.compare_eq_lt.mpr hmn, Nat.compare_eq_lt.mpr (by omega)]
    · rw [Nat.compare_eq_eq.mpr rfl, Nat.compare_eq_eq.mpr rfl]
    · rw [Nat.compare_eq_gt.mpr hmn, Nat.compare_eq_gt.mpr (by omega)]
  · have hplace : p * (y + 1) ≤ p * x := Nat.mul_le_mul_left p hxy
    rw [Nat.compare_eq_gt.mpr hxy, Ordering.gt_then, Nat.compare_eq_gt.mpr]
    rw [Nat.mul_add] at hplace
    omega

theorem compare_char (a b : Char) : compare a b = compare a.toNat b.toNat := by
  have hlt : a < b ↔ a.toNat < b.toNat := Iff.rfl
  have heq : a = b ↔ a.toNat = b.toNat := Char.toNat_inj.symm
  show compareOfLessAndEq a b = compareOfLessAndEq a.toNat b.toNat
  simp only [compareOfLessAndEq, hlt, heq]

theorem compare_digit {a b : Char} (ha : Text.isAsciiDigit a = true)
    (hb : Text.isAsciiDigit b = true) :
    compare a b = compare (a.toNat - 48) (b.toNat - 48) := by
  have hrange := Text.isAsciiDigit_iff.mp ha
  have hrange' := Text.isAsciiDigit_iff.mp hb
  rw [compare_char]
  rcases Nat.lt_trichotomy a.toNat b.toNat with hab | hab | hab
  · rw [Nat.compare_eq_lt.mpr hab, Nat.compare_eq_lt.mpr (by omega)]
  · rw [Nat.compare_eq_eq.mpr hab, Nat.compare_eq_eq.mpr (by omega)]
  · rw [Nat.compare_eq_gt.mpr hab, Nat.compare_eq_gt.mpr (by omega)]

/-- As many digits compare from the front as the numbers. -/
theorem compareLex_digits (hlength : as.length = bs.length) (has : AreDigits as)
    (hbs : AreDigits bs) :
    List.compareLex compare as bs = compare (ofDigits as) (ofDigits bs) := by
  induction as generalizing bs with
  | nil =>
    obtain rfl : bs = [] := List.length_eq_zero_iff.mp hlength.symm
    rfl
  | cons a as ih =>
    cases bs with
    | nil => cases hlength
    | cons b bs =>
      have hlength : as.length = bs.length := by simpa using hlength
      obtain ⟨ha, has⟩ := areDigits_cons.mp has
      obtain ⟨hb, hbs⟩ := areDigits_cons.mp hbs
      have hm := ofDigits_lt_pow has
      have hn := ofDigits_lt_pow hbs
      rw [← hlength] at hn
      rw [List.compareLex_cons_cons, ih hlength has hbs, compare_digit ha hb, compare_place hm hn,
        ofDigits_cons, ofDigits_cons, hlength]

end Number

namespace NaturalOrder

open Number (AreDigits ofDigits)

theorem head?_dropWhile_zero (cs : List Char) :
    (cs.dropWhile (· == '0')).head? ≠ some '0' := by
  intro h
  have hnot := List.head?_dropWhile_not (· == '0') cs
  rw [h] at hnot
  cases hnot

/-- Digits compare as the numbers that they denote. -/
theorem compareDigits_eq {as bs : List Char} (has : AreDigits as) (hbs : AreDigits bs) :
    compareDigits as bs = Ord.compare (ofDigits as) (ofDigits bs) := by
  rw [← Number.ofDigits_dropWhile_zero as, ← Number.ofDigits_dropWhile_zero bs]
  have has' := has.dropWhile_zero
  have hbs' := hbs.dropWhile_zero
  show (Ord.compare (as.dropWhile (· == '0')).length (bs.dropWhile (· == '0')).length).then _ = _
  rcases Nat.lt_trichotomy (as.dropWhile (· == '0')).length (bs.dropWhile (· == '0')).length
    with hlength | hlength | hlength
  · have hlt := Number.ofDigits_lt_of_length_lt has' hbs' (head?_dropWhile_zero bs) hlength
    rw [Nat.compare_eq_lt.mpr hlength, Nat.compare_eq_lt.mpr hlt]
    rfl
  · rw [Nat.compare_eq_eq.mpr hlength, ← Number.compareLex_digits hlength has' hbs']
    rfl
  · have hlt := Number.ofDigits_lt_of_length_lt hbs' has' (head?_dropWhile_zero as) hlength
    rw [Nat.compare_eq_gt.mpr hlength, Nat.compare_eq_gt.mpr hlt]
    rfl

/-! ## Keys -/

/-- What a run counts as. -/
inductive Key where
  | number (n : Nat)
  | text (cs : List Char)
  deriving DecidableEq, Repr

namespace Key

/-- Numbers come before texts. -/
def compare : Key → Key → Ordering
  | number m, number n => Ord.compare m n
  | number _, text _ => .lt
  | text _, number _ => .gt
  | text a, text b => List.compareLex Ord.compare a b

instance : OrientedCmp Key.compare where
  eq_swap {a b} := by
    cases a with
    | number m =>
      cases b with
      | number n =>
        change Ord.compare m n = (Ord.compare n m).swap
        exact OrientedCmp.eq_swap
      | text bs => rfl
    | text as =>
      cases b with
      | number n => rfl
      | text bs =>
        change List.compareLex Ord.compare as bs = (List.compareLex Ord.compare bs as).swap
        exact OrientedCmp.eq_swap

instance : TransCmp Key.compare where
  isLE_trans {a b c} hab hbc := by
    match a, b, c with
    | number l, number m, number n =>
      change (Ord.compare l m).isLE at hab
      change (Ord.compare m n).isLE at hbc
      change (Ord.compare l n).isLE
      exact TransCmp.isLE_trans hab hbc
    | number _, _, text _ => rfl
    | text _, number _, _ => cases hab
    | _, text _, number _ => cases hbc
    | text as, text bs, text cs =>
      change (List.compareLex Ord.compare as bs).isLE at hab
      change (List.compareLex Ord.compare bs cs).isLE at hbc
      change (List.compareLex Ord.compare as cs).isLE
      exact TransCmp.isLE_trans hab hbc

end Key

namespace Run

/-- All characters of the run are of its kind, and there is one. -/
structure IsPure (r : Run) : Prop where
  nonempty : r.chars ≠ []
  alike : ∀ c ∈ r.chars, Text.isAsciiDigit c = r.areDigits

/-- A number for digits, and other characters in lower case. -/
def key (r : Run) : Key :=
  if r.areDigits then .number (ofDigits r.chars) else .text (Text.lower r.chars)

theorem IsPure.areDigits {r : Run} (h : r.IsPure) (hr : r.areDigits = true) :
    AreDigits r.chars := fun c hc => (h.alike c hc).trans hr

/-- Runs compare as their keys. -/
theorem compare_eq {a b : Run} (ha : a.IsPure) (hb : b.IsPure) :
    a.compare b = a.key.compare b.key := by
  unfold Run.compare key
  cases hadigits : a.areDigits <;> cases hbdigits : b.areDigits <;> try rfl
  exact compareDigits_eq (ha.areDigits hadigits) (hb.areDigits hbdigits)

end Run

/-! ## Runs -/

/-- The runs put together are the text, and each is as long as can be: neighbours are of different
kinds. -/
structure IsRuns (rs : List Run) (cs : List Char) : Prop where
  whole : rs.flatMap Run.chars = cs
  pure : ∀ r ∈ rs, r.IsPure
  longest : rs.IsChain fun r s => r.areDigits ≠ s.areDigits

variable {c : Char} {cs : List Char} {r : Run} {rs : List Run}

theorem isPure_singleton (c : Char) : Run.IsPure ⟨Text.isAsciiDigit c, [c]⟩ where
  nonempty := List.cons_ne_nil c []
  alike _ hc := by rw [List.mem_singleton.mp hc]

/-- A character before a text is a run of its own or belongs to the first run. -/
theorem IsRuns.cons (h : IsRuns rs cs) (c : Char) : IsRuns (Run.cons c rs) (c :: cs) := by
  obtain ⟨rfl, hpure, hlongest⟩ := h
  cases rs with
  | nil => exact ⟨rfl, by simpa [Run.cons] using isPure_singleton c, .singleton _⟩
  | cons r rs =>
    rw [Run.cons]
    by_cases hkind : r.areDigits = Text.isAsciiDigit c
    · rw [if_pos hkind]
      obtain ⟨hr, hrs⟩ := List.forall_mem_cons.mp hpure
      refine ⟨rfl, List.forall_mem_cons.mpr ⟨⟨List.cons_ne_nil _ _, ?_⟩, hrs⟩, ?_⟩
      · exact List.forall_mem_cons.mpr ⟨hkind.symm, hr.alike⟩
      · rw [List.isChain_cons] at hlongest ⊢
        exact hlongest
    · rw [if_neg hkind]
      refine ⟨rfl, List.forall_mem_cons.mpr ⟨isPure_singleton c, hpure⟩, ?_⟩
      exact List.isChain_cons_cons.mpr ⟨fun heq => hkind heq.symm, hlongest⟩

theorem isRuns_runs (cs : List Char) : IsRuns (runs cs) cs := by
  induction cs with
  | nil => exact ⟨rfl, nofun, .nil⟩
  | cons c cs ih => exact ih.cons c

/-- Without its first character a text has the same runs, but for the first one. -/
theorem IsRuns.uncons (h : IsRuns rs (c :: cs)) :
    ∃ rest, IsRuns rest cs ∧ rs = Run.cons c rest := by
  obtain ⟨hwhole, hpure, hlongest⟩ := h
  cases rs with
  | nil => cases hwhole
  | cons r rs =>
    obtain ⟨hr, hrs⟩ := List.forall_mem_cons.mp hpure
    obtain ⟨kind, chars⟩ := r
    cases chars with
    | nil => exact absurd rfl hr.nonempty
    | cons d ds =>
      obtain ⟨rfl, hrest⟩ := List.cons.inj hwhole
      obtain ⟨hkind, halike⟩ := List.forall_mem_cons.mp hr.alike
      obtain rfl : Text.isAsciiDigit d = kind := hkind
      cases ds with
      | nil =>
        refine ⟨rs, ⟨hrest, hrs, hlongest.tail⟩, ?_⟩
        cases rs with
        | nil => rfl
        | cons s rs =>
          have hne := (List.isChain_cons_cons.mp hlongest).1
          rw [Run.cons, if_neg fun heq => hne heq.symm]
      | cons e es =>
        refine ⟨⟨Text.isAsciiDigit d, e :: es⟩ :: rs, ⟨hrest, ?_, ?_⟩, ?_⟩
        · exact List.forall_mem_cons.mpr ⟨⟨List.cons_ne_nil e es, halike⟩, hrs⟩
        · rw [List.isChain_cons] at hlongest ⊢
          exact hlongest
        · rw [Run.cons, if_pos rfl]

/-- A text has no other runs. -/
theorem IsRuns.eq_runs (h : IsRuns rs cs) : rs = runs cs := by
  induction cs generalizing rs with
  | nil =>
    cases rs with
    | nil => rfl
    | cons r rs =>
      have hempty : r.chars = [] := (List.append_eq_nil_iff.mp h.whole).1
      exact absurd hempty (h.pure r List.mem_cons_self).nonempty
  | cons c cs ih =>
    obtain ⟨rest, hrest, rfl⟩ := h.uncons
    rw [ih hrest]
    rfl

/-! ## Texts -/

theorem compareLex_runs {as bs : List Run} (has : ∀ r ∈ as, r.IsPure) (hbs : ∀ r ∈ bs, r.IsPure) :
    List.compareLex Run.compare as bs =
      List.compareLex Key.compare (as.map Run.key) (bs.map Run.key) := by
  induction as generalizing bs with
  | nil => cases bs <;> rfl
  | cons a as ih =>
    cases bs with
    | nil => rfl
    | cons b bs =>
      obtain ⟨ha, has⟩ := List.forall_mem_cons.mp has
      obtain ⟨hb, hbs⟩ := List.forall_mem_cons.mp hbs
      rw [List.map_cons, List.map_cons, List.compareLex_cons_cons, List.compareLex_cons_cons,
        Run.compare_eq ha hb, ih has hbs]

/-- The keys of the runs of a text. -/
def keys (text : String) : List Key := (runs text.toList).map Run.key

theorem compare_eq (a b : String) :
    NaturalOrder.compare a b = List.compareLex Key.compare (keys a) (keys b) :=
  compareLex_runs (isRuns_runs _).pure (isRuns_runs _).pure

instance : OrientedCmp NaturalOrder.compare where
  eq_swap {a b} := by
    rw [compare_eq, compare_eq]
    exact OrientedCmp.eq_swap

instance : TransCmp NaturalOrder.compare where
  isLE_trans {a b c} hab hbc := by
    rw [compare_eq] at hab hbc ⊢
    exact TransCmp.isLE_trans hab hbc

/-- Digits are one run. -/
theorem runs_of_areDigits (h : AreDigits cs) (hcs : cs ≠ []) : runs cs = [⟨true, cs⟩] := by
  have hruns : IsRuns [⟨true, cs⟩] cs :=
    ⟨List.append_nil cs, List.forall_mem_singleton.mpr ⟨hcs, h⟩, .singleton _⟩
  exact hruns.eq_runs.symm

theorem compare_of_areDigits {a b : String} (ha : AreDigits a.toList) (hb : AreDigits b.toList)
    (hane : a ≠ "") (hbne : b ≠ "") :
    NaturalOrder.compare a b = Ord.compare (ofDigits a.toList) (ofDigits b.toList) := by
  have hne {text : String} (htext : text ≠ "") : text.toList ≠ [] := by simpa using htext
  rw [compare_eq, keys, keys, runs_of_areDigits ha (hne hane), runs_of_areDigits hb (hne hbne),
    List.map_singleton, List.map_singleton, List.compareLex_cons_cons, List.compareLex_nil_nil,
    Ordering.then_eq]
  rfl

/-- Every text has its runs, and one list of them; whatever they are, two texts compare as the lists
of their keys. So the natural order is a total preorder: turning a comparison round swaps its
outcome, comparisons chain, and to compare equal is an equivalence. Texts of digits compare as
numbers, and no text at all comes before all others. -/
theorem compare_by_keys :
    (∀ cs, ∃! rs, IsRuns rs cs) ∧
    (∀ a b as bs, IsRuns as a.toList → IsRuns bs b.toList →
      NaturalOrder.compare a b =
        List.compareLex Key.compare (as.map Run.key) (bs.map Run.key)) ∧
    (∀ a b, NaturalOrder.compare b a = (NaturalOrder.compare a b).swap) ∧
    (∀ a b c, (NaturalOrder.compare a b).isLE → (NaturalOrder.compare b c).isLE →
      (NaturalOrder.compare a c).isLE) ∧
    (Equivalence fun a b => NaturalOrder.compare a b = .eq) ∧
    (∀ a b, AreDigits a.toList → AreDigits b.toList → a ≠ "" → b ≠ "" →
      NaturalOrder.compare a b = Ord.compare (ofDigits a.toList) (ofDigits b.toList)) ∧
    ∀ b, b ≠ "" → NaturalOrder.compare "" b = .lt := by
  refine ⟨fun cs => ⟨runs cs, isRuns_runs cs, fun rs => IsRuns.eq_runs⟩, ?_,
    fun _ _ => OrientedCmp.eq_swap, fun _ _ _ => TransCmp.isLE_trans, ?_,
    fun _ _ => compare_of_areDigits, ?_⟩
  · intro a b as bs has hbs
    rw [compare_eq, keys, keys, has.eq_runs, hbs.eq_runs]
  · exact ⟨fun _ => ReflCmp.compare_self, fun h => OrientedCmp.eq_symm h, TransCmp.eq_trans⟩
  · intro b hb
    cases hruns : runs b.toList with
    | nil =>
      have hwhole := (isRuns_runs b.toList).whole
      rw [hruns] at hwhole
      exact absurd (String.toList_eq_nil_iff.mp hwhole.symm) hb
    | cons r rs =>
      rw [compare_eq, keys, keys, hruns]
      rfl

example : NaturalOrder.compare "item 9" "Item 010b" = .lt := by decide +kernel

end NaturalOrder

end FormulaSheet
