import FormulaSheet.Formula.Coercion
import FormulaSheet.Proofs.Number.Bases

/-!
The texts that count as numbers. The grammar of scripts has decimal numerals, infinities, and whole
numbers of any length in base sixteen, eight and two; blank text is zero. What is read differs from
it in the whole numbers alone: they must fit sixty-four bits, and a plus sign may stand behind the
mark of the base (`Script.Value.isNaN_number_text`).
-/

namespace FormulaSheet.Number

/-- The texts that denote numbers in scripts, without blanks at their ends. -/
inductive IsNumberText : List Char → Prop
  | empty : IsNumberText []
  | infinity {s : List Char} (hs : IsSign s) : IsNumberText (s ++ "Infinity".toList)
  | decimal {t : List Char} (ht : IsDecimal Text.isAsciiDigit t) : IsNumberText t
  | whole {t : List Char} {n : Nat} (ht : IsBaseLiteral [] t n) : IsNumberText t

variable {base : Nat} {mark : Char} {cs t : List Char}

/-- Behind a base mark, only whole numbers are numbers. -/
theorem isNumberText_of_isBaseMark (hmark : IsBaseMark mark base) :
    IsNumberText ('0' :: mark :: cs) ↔ ∃ n, IsBaseLiteral [] ('0' :: mark :: cs) n := by
  constructor
  · generalize ht : '0' :: mark :: cs = t
    intro h
    cases h with
    | empty => cases ht
    | infinity hs => cases hs <;> cases ht
    | decimal h => exact absurd (ht ▸ h) (hmark.not_isDecimal cs)
    | whole h => exact ⟨_, h⟩
  · rintro ⟨n, h⟩
    exact .whole h

/-- Texts with a base mark that are numbers. -/
theorem isNaN_ofTrimmed_of_isBaseMark (hmark : IsBaseMark mark base) :
    (ofTrimmed ('0' :: mark :: cs)).isNaN = false ↔
      ∃ n < Nat.pow 2 64, IsBaseLiteral [] ('0' :: mark :: cs) n ∨
        IsBaseLiteral ['+'] ('0' :: mark :: cs) n := by
  rw [ofTrimmed_of_isBaseMark hmark, isNaN_ofBase hmark.le]
  simp [isBaseLiteral_iff hmark]

theorem isNaN_ofNumeral (t : List Char) : (ofNumeral t).isNaN = false ↔
    IsDecimal Text.isAsciiDigit t := by
  rw [← isSome_ofChars?_iff, ofNumeral]
  cases Numeral.ofChars? t with
  | none =>
    rw [isNaN_nan]
    exact iff_of_false nofun nofun
  | some n => exact iff_of_true (isNaN_toFloat n) rfl

/-- Texts without a base mark. -/
theorem isNaN_ofTrimmed_of_not_marked
    (hplain : ¬ ∃ mark base cs, IsBaseMark mark base ∧ t = '0' :: mark :: cs) :
    (ofTrimmed t).isNaN = false ↔ IsNumberText t := by
  unfold ofTrimmed
  split
  · exact iff_of_true (by decide +kernel) .empty
  · exact absurd ⟨_, _, _, .x, rfl⟩ hplain
  · exact absurd ⟨_, _, _, .X, rfl⟩ hplain
  · exact absurd ⟨_, _, _, .o, rfl⟩ hplain
  · exact absurd ⟨_, _, _, .O, rfl⟩ hplain
  · exact absurd ⟨_, _, _, .b, rfl⟩ hplain
  · exact absurd ⟨_, _, _, .B, rfl⟩ hplain
  · rename_i hne _ _ _ _ _ _
    split
    · rename_i hinfinity
      refine iff_of_true isNaN_infinity ?_
      rcases hinfinity with rfl | rfl
      · exact .infinity .none
      · exact .infinity .plus
    split
    · rename_i hinfinity
      subst hinfinity
      exact iff_of_true (isNaN_neg isNaN_infinity) (.infinity .minus)
    · rename_i hpositive hnegative
      rw [isNaN_ofNumeral]
      refine ⟨.decimal, fun h => ?_⟩
      cases h with
      | empty => exact absurd rfl hne
      | infinity hs =>
        cases hs with
        | none => exact absurd (.inl rfl) hpositive
        | plus => exact absurd (.inr rfl) hpositive
        | minus => exact absurd rfl hnegative
      | decimal h => exact h
      | whole h => exact absurd h.marked hplain

theorem isNaN_ofTrimmed (t : List Char) : (ofTrimmed t).isNaN = false ↔
    (IsNumberText t ∧ ∀ n, IsBaseLiteral [] t n → n < Nat.pow 2 64) ∨
      ∃ n < Nat.pow 2 64, IsBaseLiteral ['+'] t n := by
  by_cases hmarked : ∃ mark base cs, IsBaseMark mark base ∧ t = '0' :: mark :: cs
  · obtain ⟨mark, base, cs, hmark, rfl⟩ := hmarked
    rw [isNaN_ofTrimmed_of_isBaseMark hmark, isNumberText_of_isBaseMark hmark]
    constructor
    · rintro ⟨n, hn, hplain | hplus⟩
      · exact .inl ⟨⟨n, hplain⟩, fun m hm => hplain.unique hm ▸ hn⟩
      · exact .inr ⟨n, hn, hplus⟩
    · rintro (⟨⟨n, hplain⟩, hfits⟩ | ⟨n, hn, hplus⟩)
      · exact ⟨n, hfits n hplain, .inl hplain⟩
      · exact ⟨n, hn, .inr hplus⟩
  · rw [isNaN_ofTrimmed_of_not_marked hmarked]
    constructor
    · exact fun h => .inl ⟨h, fun n hn => absurd hn.marked hmarked⟩
    · rintro (⟨h, -⟩ | ⟨n, -, hplus⟩)
      · exact h
      · exact absurd hplus.marked hmarked

end FormulaSheet.Number

namespace FormulaSheet.Script.Value

open Number

/-- A text counts as a number if it denotes one, unless that is a whole number behind the mark of a
base which does not fit sixty-four bits; so does a smaller one with a plus sign behind the mark. -/
theorem isNaN_number_text (s : String) : (number (.text s)).isNaN = false ↔
    (IsNumberText (trimmed s.toList) ∧
        ∀ n, IsBaseLiteral [] (trimmed s.toList) n → n < Nat.pow 2 64) ∨
      ∃ n < Nat.pow 2 64, IsBaseLiteral ['+'] (trimmed s.toList) n := by
  rw [number]
  exact isNaN_ofTrimmed _

/-- With a plus sign behind the mark of its base a text counts as a number that it does not
denote. -/
theorem number_of_signed_base :
    ¬ ((number (.text "0x+5")).isNaN = false ↔ IsNumberText (trimmed "0x+5".toList)) := by
  have htrimmed : trimmed "0x+5".toList = ['0', 'x', '+', '5'] := by decide
  have hread : number (.text "0x+5") = Float.ofNat 5 := by
    rw [number, ofText, htrimmed]
    rfl
  rw [hread, htrimmed, isNumberText_of_isBaseMark .x]
  intro h
  obtain ⟨n, hn⟩ := h.mp (isNaN_ofNat 5)
  obtain ⟨ds, rfl, hds⟩ := (isBaseLiteral_iff .x).mp hn
  exact IsWhole.not_plus (by decide) hds

end FormulaSheet.Script.Value
