import FormulaSheet.Proofs.Calendar.Digits
import FormulaSheet.Proofs.Number.Shortest

/-!
The texts of doubles. A text without an exponent is read back as the decimal that it was written
for (`valueOf_positional`), the shortest decimal rounds to no other double, and so doubles that are
shown alike are equal (`beq_of_display`).
-/

namespace FormulaSheet.Number

/-! ## Reading digits with a point -/

/-- The number that digits with at most one point denote. -/
def valueOf (cs : List Char) : ℚ :=
  ofDigits (cs.filter (· != '.')) / 10 ^ ((cs.dropWhile (· != '.')).length - 1)

variable {cs ds : List Char} {c : Char}

theorem bne_point_of_isAsciiDigit (h : Text.isAsciiDigit c = true) : (c != '.') = true := by
  rw [bne_iff_ne]
  rintro rfl
  cases h

theorem valueOf_digits (h : ∀ c ∈ cs, Text.isAsciiDigit c = true) : valueOf cs = ofDigits cs := by
  have hplain : ∀ c ∈ cs, (c != '.') = true := fun c hc => bne_point_of_isAsciiDigit (h c hc)
  rw [valueOf, List.filter_eq_self.mpr hplain, List.dropWhile_eq_nil_iff.mpr hplain]
  simp

theorem valueOf_point (hcs : ∀ c ∈ cs, Text.isAsciiDigit c = true)
    (hds : ∀ c ∈ ds, Text.isAsciiDigit c = true) :
    valueOf (cs ++ '.' :: ds) = ofDigits (cs ++ ds) / 10 ^ ds.length := by
  have hplain : ∀ c ∈ cs, (c != '.') = true := fun c hc => bne_point_of_isAsciiDigit (hcs c hc)
  have hplain' : ∀ c ∈ ds, (c != '.') = true := fun c hc => bne_point_of_isAsciiDigit (hds c hc)
  rw [valueOf, List.filter_append, List.filter_cons_of_neg (by simp),
    List.filter_eq_self.mpr hplain, List.filter_eq_self.mpr hplain',
    List.dropWhile_append_of_pos hplain, List.dropWhile_cons_of_neg (by simp)]
  simp

variable {d : Decimal}

theorem Decimal.positional_of_nonneg (h : 0 ≤ d.exponent) : d.positional.toList =
    Nat.toDigits 10 d.digits ++ List.replicate d.exponent.toNat '0' := by
  unfold positional digitChars
  simp only
  rw [if_pos h, String.toList_ofList]

theorem Decimal.positional_of_neg (h : d.exponent < 0) : d.positional.toList =
    let places := (-d.exponent).toNat
    let padded := Calendar.padded (places + 1) d.digits
    padded.take (padded.length - places) ++ '.' :: padded.drop (padded.length - places) := by
  unfold positional digitChars
  simp only
  rw [if_neg (by omega), String.toList_ofList]
  rfl

theorem isAsciiDigit_of_mem_shifted {n k : Nat}
    (h : c ∈ Nat.toDigits 10 n ++ List.replicate k '0') : Text.isAsciiDigit c = true := by
  rcases List.mem_append.mp h with h | h
  · exact Text.isAsciiDigit_of_isDigit (Nat.isDigit_of_mem_toDigits (by decide) (by decide) h)
  · rw [List.eq_of_mem_replicate h]
    rfl

/-- Digits that are written for a decimal are read as its value. -/
theorem valueOf_positional (d : Decimal) : valueOf d.positional.toList = d.value := by
  rcases le_or_gt 0 d.exponent with h | h
  · have hpower : (10 : ℚ) ^ d.exponent = 10 ^ d.exponent.toNat := by
      rw [← zpow_natCast, Int.toNat_of_nonneg h]
    rw [Decimal.positional_of_nonneg h, valueOf_digits fun c => isAsciiDigit_of_mem_shifted,
      ofDigits_eq, Nat.ofDigitChars_append, Nat.ofDigitChars_replicate_zero,
      Nat.ofDigitChars_ten_toDigits, Decimal.value, hpower]
    push_cast
    ring
  · obtain ⟨places, hplaces⟩ := Int.eq_ofNat_of_zero_le (neg_nonneg.mpr h.le)
    have hexponent : d.exponent = -places := by omega
    have hdigits : ∀ c ∈ Calendar.padded (places + 1) d.digits, Text.isAsciiDigit c = true :=
      fun c => Calendar.isAsciiDigit_of_mem_padded
    have hlength : places ≤ (Calendar.padded (places + 1) d.digits).length := by
      simp only [Calendar.padded, List.length_append, List.length_replicate]
      omega
    rw [Decimal.positional_of_neg h, hplaces]
    simp only [Int.toNat_natCast]
    rw [valueOf_point (fun c hc => hdigits c (List.mem_of_mem_take hc))
      (fun c hc => hdigits c (List.mem_of_mem_drop hc)), List.take_append_drop, List.length_drop,
      Calendar.ofDigits_padded, Nat.sub_sub_self hlength, Decimal.value, hexponent, zpow_neg,
      zpow_natCast, div_eq_mul_inv]

theorem not_mem_positional (d : Decimal) : '-' ∉ d.positional.toList := by
  intro hmem
  rcases le_or_gt 0 d.exponent with h | h
  · rw [Decimal.positional_of_nonneg h] at hmem
    cases isAsciiDigit_of_mem_shifted hmem
  · rw [Decimal.positional_of_neg h] at hmem
    rcases List.mem_append.mp hmem with hmem | hmem
    · cases Calendar.isAsciiDigit_of_mem_padded (List.mem_of_mem_take hmem)
    · rcases List.mem_cons.mp hmem with hmem | hmem
      · cases hmem
      · cases Calendar.isAsciiDigit_of_mem_padded (List.mem_of_mem_drop hmem)

/-! ## Doubles by their texts -/

namespace Binary

variable {b c : Binary} {q : ℚ}

/-- The text of a double without an exponent. -/
def text (b : Binary) : List Char :=
  (if b.negative then ['-'] else []) ++ b.shortest.positional.toList

theorem Covers.pos (hpos : 0 < b.mantissa) (h : b.Covers q) : 0 < q := by
  have hlow : 0 < b.lowQuarters := by
    unfold lowQuarters
    split <;> omega
  have hlower : 0 < b.lower := by
    unfold lower
    positivity
  exact hlower.trans_le h.lower_le

/-- Digits do not begin with a sign. -/
theorem text_inj_parts (h : b.text = c.text) : b.negative = c.negative ∧
    b.shortest.positional.toList = c.shortest.positional.toList := by
  unfold text at h
  cases hb : b.negative <;> cases hc : c.negative <;> rw [hb, hc] at h
  · exact ⟨rfl, h⟩
  · have hmem : '-' ∈ b.shortest.positional.toList := by
      rw [show b.shortest.positional.toList = '-' :: c.shortest.positional.toList from h]
      exact List.mem_cons_self
    exact absurd hmem (not_mem_positional _)
  · have hmem : '-' ∈ c.shortest.positional.toList := by
      rw [show c.shortest.positional.toList = '-' :: b.shortest.positional.toList from h.symm]
      exact List.mem_cons_self
    exact absurd hmem (not_mem_positional _)
  · exact ⟨rfl, List.tail_eq_of_cons_eq h⟩

/-- Doubles with one text are the same. -/
theorem text_inj (hb : b.IsDouble) (hc : c.IsDouble) (hbpos : 0 < b.mantissa)
    (hcpos : 0 < c.mantissa) (h : b.text = c.text) : b = c := by
  obtain ⟨hsign, hdigits⟩ := text_inj_parts h
  have hvalue : b.shortest.value = c.shortest.value := by
    rw [← valueOf_positional, ← valueOf_positional, hdigits]
  have hcovers := covers_shortest hc hcpos
  rw [← hvalue] at hcovers
  obtain ⟨hmantissa, hexponent⟩ := (covers_shortest hb hbpos).unique hb hc hcovers
  obtain ⟨negative, m, e⟩ := b
  obtain ⟨negative', m', e'⟩ := c
  exact Binary.mk.injEq .. ▸ ⟨hsign, hmantissa, hexponent⟩

/-- Doubles other than zero are not written like zero. -/
theorem text_ne (hb : b.IsDouble) (hpos : 0 < b.mantissa) (hsign : '-' ∉ cs)
    (hzero : valueOf cs = 0) : b.text ≠ cs := by
  rintro rfl
  unfold text at hsign hzero
  cases hnegative : b.negative with
  | true =>
    rw [hnegative] at hsign
    exact hsign List.mem_cons_self
  | false =>
    rw [hnegative] at hzero
    have hvalue : b.shortest.value = 0 := (valueOf_positional _).symm.trans hzero
    exact ((covers_shortest hb hpos).pos hpos).ne' hvalue

end Binary

variable {x y : Float} {b : Binary}

theorem display_of_isZero (h : IsZero x) : display x = "0" := by
  unfold display
  rw [if_pos]
  exact beq_iff.mpr ⟨isNaN_of_isFinite (isFinite_of_isZero h), .inr ⟨h, .inl rfl⟩⟩

theorem display_of_pos (h : Binary.ofFloat? x = some b) (hpos : 0 < b.mantissa) :
    (display x).toList = b.text := by
  have hzero : ¬ (x == 0.0) = true := by
    intro heq
    obtain ⟨-, rfl | ⟨hx, -⟩⟩ := beq_iff.mp heq
    · exact not_isZero_of_pos h hpos (.inl rfl)
    · exact not_isZero_of_pos h hpos hx
  unfold display positional written
  rw [if_neg hzero, h, String.toList_append, Binary.text]
  split <;> rfl

theorem display_congr (h : (x == y) = true) : display x = display y := by
  obtain ⟨-, rfl | ⟨hx, hy⟩⟩ := beq_iff.mp h
  · rfl
  · rw [display_of_isZero hx, display_of_isZero hy]

/-- How a finite double is shown: zero by one text, and others by their own. -/
theorem display_cases (h : x.isFinite = true) : (IsZero x ∧ display x = "0") ∨
    ∃ b, Binary.ofFloat? x = some b ∧ 0 < b.mantissa ∧ (display x).toList = b.text := by
  obtain ⟨b, hb⟩ := isFinite_iff.mp h
  rcases Nat.eq_zero_or_pos b.mantissa with hzero | hpos
  · exact .inl ⟨isZero_of_eq_zero hb hzero, display_of_isZero (isZero_of_eq_zero hb hzero)⟩
  · exact .inr ⟨b, hb, hpos, display_of_pos hb hpos⟩

theorem display_ne_empty (h : x.isFinite = true) : display x ≠ "" := by
  intro hempty
  obtain ⟨-, hzero⟩ | ⟨b, hb, hpos, htext⟩ := display_cases h
  · exact absurd (hzero.symm.trans hempty) (by decide)
  · rw [hempty] at htext
    exact Binary.text_ne (isDouble_of_ofFloat? hb) hpos (by simp) (by simp [valueOf, ofDigits])
      htext.symm

theorem display_ne_zero (h : Binary.ofFloat? x = some b) (hpos : 0 < b.mantissa) :
    display x ≠ "0" := by
  intro hzero
  have htext := display_of_pos h hpos
  rw [hzero] at htext
  exact Binary.text_ne (isDouble_of_ofFloat? h) hpos (by simp) (by simp [valueOf, ofDigits])
    htext.symm

/-- Finite doubles that are shown alike are equal. -/
theorem beq_of_display (hx : x.isFinite = true) (hy : y.isFinite = true)
    (h : display x = display y) : (x == y) = true := by
  refine beq_iff.mpr ⟨isNaN_of_isFinite hx, ?_⟩
  obtain ⟨hzero, htext⟩ | ⟨b, hb, hbpos, htext⟩ := display_cases hx <;>
    obtain ⟨hzero', htext'⟩ | ⟨c, hc, hcpos, htext'⟩ := display_cases hy
  · exact .inr ⟨hzero, hzero'⟩
  · exact absurd (h.symm.trans htext) (display_ne_zero hc hcpos)
  · exact absurd (h.trans htext') (display_ne_zero hb hbpos)
  · have hsame : b = c := Binary.text_inj (isDouble_of_ofFloat? hb) (isDouble_of_ofFloat? hc) hbpos
      hcpos (by rw [← htext, ← htext', h])
    exact .inl (eq_of_ofFloat? hb (hsame ▸ hc))

end FormulaSheet.Number
