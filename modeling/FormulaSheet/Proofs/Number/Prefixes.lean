import FormulaSheet.Proofs.Number.Coercion

/-!
The number at the front of a text. It is the number of the longest numeral there, as long as that
is written in the digits `0` to `9`. Digits of other scripts are taken into the numeral without
having a value, so that there is no number when one of them goes on with it
(`Script.Value.leadingNumber_text`).
-/

namespace FormulaSheet.Number

variable {digit digit' : Char → Bool} {ds m e u t p text : List Char}

/-! ## Larger classes of digits -/

section

variable (hle : ∀ c, digit c = true → digit' c = true)

include hle

theorem IsDigits.mono (hds : IsDigits digit ds) : IsDigits digit' ds :=
  ⟨hds.1, fun c hc => hle c (hds.2 c hc)⟩

theorem IsMantissa.mono (hm : IsMantissa digit m) : IsMantissa digit' m := by
  cases hm with
  | whole hds => exact .whole (hds.mono hle)
  | pointed hds hes => exact .pointed (hds.mono hle) fun c hc => hle c (hes c hc)
  | fraction hes => exact .fraction (hes.mono hle)

theorem IsExponent.mono (he : IsExponent digit e) : IsExponent digit' e := by
  cases he with
  | none => exact .none
  | some hmark hs hds => exact .some hmark hs (hds.mono hle)

/-- A numeral is one in more digits, too. -/
theorem IsDecimal.mono (ht : IsDecimal digit t) : IsDecimal digit' t := by
  obtain ⟨hs, hm, he⟩ := ht
  exact .intro hs (.intro (hm.mono hle) (he.mono hle))

/-- The longest numeral in more digits is the longest one in fewer digits if it has no others. -/
theorem IsLongest.of_mono (h : IsLongest (IsDecimal digit') text p) (hp : IsDecimal digit p) :
    IsLongest (IsDecimal digit) text p :=
  ⟨hp, h.front, fun q hq => h.longest q (hq.mono hle)⟩

end

/-! ## What is read -/

theorem ofLeading_of_isLongest {s : String}
    (h : IsLongest (IsDecimal Text.isDigit) (s.toList.dropWhile Text.isBlank) p) :
    ofLeading s = ofNumeral p := by
  rw [ofLeading, (leading?_eq_some_iff isDigitClass_isDigit).mpr h]

/-- There is a number at the front if the longest numeral there is in the digits `0` to `9`. -/
theorem isNaN_ofLeading (s : String) : (ofLeading s).isNaN = false ↔
    ∃ p, IsLongest (IsDecimal Text.isDigit) (s.toList.dropWhile Text.isBlank) p ∧
      IsDecimal Text.isAsciiDigit p := by
  constructor
  · intro h
    cases hread : leading? Text.isDigit (s.toList.dropWhile Text.isBlank) with
    | none =>
      rw [ofLeading, hread] at h
      cases isNaN_nan.symm.trans h
    | some p =>
      have hp := (leading?_eq_some_iff isDigitClass_isDigit).mp hread
      rw [ofLeading_of_isLongest hp, isNaN_ofNumeral] at h
      exact ⟨p, hp, h⟩
  · rintro ⟨p, hp, hascii⟩
    rw [ofLeading_of_isLongest hp, isNaN_ofNumeral]
    exact hascii

end FormulaSheet.Number

namespace FormulaSheet.Script.Value

open Number

/-- The number at the front of a text is that of the longest numeral there, whatever follows it,
unless digits of other scripts make the numeral longer: then there is none. -/
theorem leadingNumber_text (s : String) :
    ((leadingNumber (.text s)).isNaN = false ↔
      ∃ p, IsLongest (IsDecimal Text.isAsciiDigit) (s.toList.dropWhile Text.isBlank) p ∧
        IsLongest (IsDecimal Text.isDigit) (s.toList.dropWhile Text.isBlank) p) ∧
    ∀ p, IsLongest (IsDecimal Text.isDigit) (s.toList.dropWhile Text.isBlank) p →
      leadingNumber (.text s) = ofNumeral p := by
  -- a text is shown as it is
  have htext : leadingNumber (.text s) = ofLeading s := rfl
  rw [htext, isNaN_ofLeading]
  refine ⟨exists_congr fun p => ?_, fun p => ofLeading_of_isLongest⟩
  constructor
  · rintro ⟨hp, hascii⟩
    exact ⟨hp.of_mono (fun _ => Text.isDigit_of_isAsciiDigit) hascii, hp⟩
  · rintro ⟨hascii, hp⟩
    exact ⟨hp, hascii.mem⟩

theorem leadingNumber_text_followed :
    IsLongest (IsDecimal Text.isDigit) (" -12.5e3x".toList.dropWhile Text.isBlank)
      "-12.5e3".toList ∧
    leadingNumber (.text " -12.5e3x") = ofNumeral "-12.5e3".toList :=
  have hlongest : IsLongest (IsDecimal Text.isDigit) (" -12.5e3x".toList.dropWhile Text.isBlank)
      "-12.5e3".toList := (leading?_eq_some_iff isDigitClass_isDigit).mp (by decide)
  ⟨hlongest, (leadingNumber_text " -12.5e3x").2 _ hlongest⟩

/-- A digit of another script behind a numeral leaves no number, although a numeral is there. -/
theorem leadingNumber_of_other_digit :
    ¬ ((leadingNumber (.text "1٣")).isNaN = false ↔
      ∃ p, IsDecimal Text.isAsciiDigit p ∧ p <+: "1٣".toList.dropWhile Text.isBlank) := by
  have hlongest : leading? Text.isDigit ("1٣".toList.dropWhile Text.isBlank) =
      some ['1', '٣'] := by decide
  have hread : ¬ (leadingNumber (.text "1٣")).isNaN = false := by
    change ¬ (ofLeading "1٣").isNaN = false
    rw [ofLeading, hlongest, isNaN_ofNumeral]
    decide
  have hnumeral : IsDecimal Text.isAsciiDigit ['1'] := by decide
  intro h
  exact hread (h.mpr ⟨['1'], hnumeral, by decide⟩)

end FormulaSheet.Script.Value
