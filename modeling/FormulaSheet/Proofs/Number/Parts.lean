import FormulaSheet.Number.Binary
import Mathlib

/-!
Doubles and the numbers that they are taken apart into. What a double is taken apart into is what
Lean's own doubles are unpacked to (`unpack_of_ofFloat?`), it is packed again without loss
(`unpack_pack`), and equal doubles are those with equal parts, zeros of either sign aside
(`beq_iff`).
-/

namespace FormulaSheet.Number

open Float.Model (Format UnpackedFloat)
open Float.Model.UnpackedFloat

def signFor (negative : Bool) : Sign := if negative then .negative else .positive

namespace Binary

/-- The number as Lean unpacks its doubles, where zero stands on its own. -/
def unpacked (b : Binary) : UnpackedFloat :=
  if h : b.mantissa = 0 then .zero (signFor b.negative)
  else .finite (signFor b.negative) b.mantissa b.exponent (Nat.pos_of_ne_zero h)

/-- What doubles are taken apart into: a mantissa of fifty-three bits, of which the first one is
set unless the exponent is the least. -/
structure IsDouble (b : Binary) : Prop where
  mantissa_lt : b.mantissa < 2 ^ 53
  exponent_ge : -1074 ≤ b.exponent
  exponent_le : b.exponent ≤ 971
  full : 2 ^ 52 ≤ b.mantissa ∨ b.exponent = -1074

end Binary

variable {x y : Float} {b c : Binary}

theorem signFor_inj {negative negative' : Bool} (h : signFor negative = signFor negative') :
    negative = negative' := by
  cases negative <;> cases negative' <;> cases h <;> rfl

namespace Binary

theorem unpacked_of_eq_zero (h : b.mantissa = 0) : b.unpacked = .zero (signFor b.negative) :=
  dif_pos h

theorem unpacked_of_pos (h : 0 < b.mantissa) :
    b.unpacked = .finite (signFor b.negative) b.mantissa b.exponent h :=
  dif_neg h.ne'

theorem isFinite_unpacked (b : Binary) : b.unpacked.isFinite = true := by
  rcases Nat.eq_zero_or_pos b.mantissa with h | h
  · rw [unpacked_of_eq_zero h]
    rfl
  · rw [unpacked_of_pos h]
    rfl

theorem IsDouble.unpacked_inj (hb : b.IsDouble) (hc : c.IsDouble) (h : b.unpacked = c.unpacked) :
    b = c := by
  obtain ⟨negative, m, e⟩ := b
  obtain ⟨negative', m', e'⟩ := c
  have hfull := hb.full
  have hfull' := hc.full
  simp only at hfull hfull'
  rcases Nat.eq_zero_or_pos m with hm | hm <;> rcases Nat.eq_zero_or_pos m' with hm' | hm'
  · -- zeros have the least exponent
    rw [unpacked_of_eq_zero hm, unpacked_of_eq_zero hm'] at h
    have hsign := signFor_inj (UnpackedFloat.zero.inj h)
    simp only [mk.injEq]
    exact ⟨hsign, by omega, by omega⟩
  · rw [unpacked_of_eq_zero hm, unpacked_of_pos hm'] at h
    cases h
  · rw [unpacked_of_pos hm, unpacked_of_eq_zero hm'] at h
    cases h
  · rw [unpacked_of_pos hm, unpacked_of_pos hm'] at h
    obtain ⟨hsign, hmantissa, hexponent⟩ := UnpackedFloat.finite.inj h
    simp only [mk.injEq]
    exact ⟨signFor_inj hsign, hmantissa, hexponent⟩

end Binary

/-! ## Fields -/

variable {v : BitVec Format.binary64.numBits}

theorem toNat_unpackMantissa (v : BitVec Format.binary64.numBits) :
    (unpackMantissa v).toNat = v.toNat % 2 ^ 52 := by
  simp [unpackMantissa, BitVec.extractLsb_toNat]

theorem toNat_unpackExponent (v : BitVec Format.binary64.numBits) :
    (unpackExponent v).toNat = v.toNat / 2 ^ 52 % 2 ^ 11 := by
  simp [unpackExponent, BitVec.extractLsb_toNat, Nat.shiftRight_eq_div_pow]

theorem toNat_unpackSign (v : BitVec Format.binary64.numBits) :
    (unpackSign v).toNat = v.toNat / 2 ^ 63 := by
  have hlt : v.toNat < 2 ^ 64 := v.isLt
  simp [unpackSign, BitVec.extractLsb_toNat, Nat.shiftRight_eq_div_pow]
  omega

theorem unpackMantissa_eq_zero_iff : unpackMantissa v = 0#_ ↔ v.toNat % 2 ^ 52 = 0 := by
  rw [← BitVec.toNat_inj, toNat_unpackMantissa, BitVec.toNat_zero]

theorem unpackExponent_eq_zero_iff : unpackExponent v = 0#_ ↔ v.toNat / 2 ^ 52 % 2 ^ 11 = 0 := by
  rw [← BitVec.toNat_inj, toNat_unpackExponent, BitVec.toNat_zero]

theorem unpackExponent_eq_ones_iff :
    unpackExponent v = -1#_ ↔ v.toNat / 2 ^ 52 % 2 ^ 11 = 2047 := by
  rw [← BitVec.toNat_inj, toNat_unpackExponent]
  rfl

theorem toNat_implicit (v : BitVec Format.binary64.numBits) :
    (1#1 ++ unpackMantissa v).toNat = v.toNat % 2 ^ 52 + 2 ^ 52 := by
  rw [BitVec.toNat_append, toNat_unpackMantissa,
    ← Nat.shiftLeft_add_eq_or_of_lt (Nat.mod_lt _ (by decide))]
  simp [Nat.shiftLeft_eq, Nat.add_comm]

theorem signFor_decide (v : BitVec Format.binary64.numBits) :
    signFor (decide (2 ^ 63 ≤ v.toNat)) = Sign.ofBitVec (unpackSign v) := by
  have hsign := toNat_unpackSign v
  have hlt : v.toNat < 2 ^ 64 := v.isLt
  unfold Sign.ofBitVec signFor
  split
  · rename_i hbig
    have hle : 2 ^ 63 ≤ v.toNat := of_decide_eq_true hbig
    rw [if_neg]
    intro hzero
    rw [hzero, BitVec.toNat_zero] at hsign
    omega
  · rename_i hsmall
    have hlt : ¬ 2 ^ 63 ≤ v.toNat := fun h => hsmall (decide_eq_true h)
    rw [if_pos]
    exact BitVec.eq_of_toNat_eq (by rw [hsign, BitVec.toNat_zero]; omega)

/-! ## Unpacking -/

theorem unpack_of_ones (he : v.toNat / 2 ^ 52 % 2 ^ 11 = 2047) :
    UnpackedFloat.unpack Format.binary64 v =
      if v.toNat % 2 ^ 52 = 0 then .infinity (Sign.ofBitVec (unpackSign v)) else .notANumber := by
  have hones := unpackExponent_eq_ones_iff.mpr he
  fun_cases UnpackedFloat.unpack with
  | case1 _ _ _ _ _ hm => rw [if_pos (unpackMantissa_eq_zero_iff.mp hm)]
  | case2 _ _ _ hm => rw [if_neg (mt unpackMantissa_eq_zero_iff.mpr hm)]
  | case3 _ _ _ _ hnot => exact absurd hones hnot
  | case4 _ _ _ _ _ hnot => exact absurd hones hnot
  | case5 _ _ _ _ _ hnot => exact absurd hones hnot

theorem unpack_of_not_ones (he : v.toNat / 2 ^ 52 % 2 ^ 11 ≠ 2047) :
    UnpackedFloat.unpack Format.binary64 v =
      Binary.unpacked (if v.toNat / 2 ^ 52 % 2 ^ 11 = 0 then
        ⟨decide (2 ^ 63 ≤ v.toNat), v.toNat % 2 ^ 52, -1074⟩
      else ⟨decide (2 ^ 63 ≤ v.toNat), v.toNat % 2 ^ 52 + 2 ^ 52,
        (v.toNat / 2 ^ 52 % 2 ^ 11 : Nat) - 1075⟩) := by
  have hones := mt unpackExponent_eq_ones_iff.mp he
  fun_cases UnpackedFloat.unpack with
  | case1 _ _ _ _ h => exact absurd h hones
  | case2 _ _ h => exact absurd h hones
  | case3 _ _ _ _ _ h0 hm =>
    have hzero : v.toNat % 2 ^ 52 = 0 := unpackMantissa_eq_zero_iff.mp hm
    rw [if_pos (unpackExponent_eq_zero_iff.mp h0), Binary.unpacked_of_eq_zero hzero, signFor_decide]
  | case4 m e k _ s _ h0 hm =>
    have hpos : 0 < v.toNat % 2 ^ 52 := Nat.pos_of_ne_zero (mt unpackMantissa_eq_zero_iff.mpr hm)
    have hexponent : k + 1 = -1074 := by
      change ((unpackExponent v).toNat : Int) - (1023 + 52) + 1 = -1074
      rw [toNat_unpackExponent, unpackExponent_eq_zero_iff.mp h0]
      rfl
    rw [if_pos (unpackExponent_eq_zero_iff.mp h0), Binary.unpacked_of_pos hpos, signFor_decide]
    simp only [UnpackedFloat.finite.injEq]
    exact ⟨rfl, toNat_unpackMantissa v, hexponent⟩
  | case5 m e k _ s _ h0 =>
    have hexponent : k = (v.toNat / 2 ^ 52 % 2 ^ 11 : Nat) - 1075 := by
      change ((unpackExponent v).toNat : Int) - (1023 + 52) = _
      rw [toNat_unpackExponent]
      ring
    rw [if_neg (mt unpackExponent_eq_zero_iff.mpr h0),
      Binary.unpacked_of_pos (by simp only; omega), signFor_decide]
    simp only [UnpackedFloat.finite.injEq]
    exact ⟨rfl, toNat_implicit v, hexponent⟩

theorem ofFloat?_eq (x : Float) : Binary.ofFloat? x =
    let bits := x.toModel.toBits.toBitVec.toNat
    let negative := decide (2 ^ 63 ≤ bits)
    if bits / 2 ^ 52 % 2 ^ 11 = 2047 then none
    else if bits / 2 ^ 52 % 2 ^ 11 = 0 then some ⟨negative, bits % 2 ^ 52, -1074⟩
    else some ⟨negative, bits % 2 ^ 52 + 2 ^ 52, (bits / 2 ^ 52 % 2 ^ 11 : Nat) - 1075⟩ := rfl

theorem isDouble_of_ofFloat? (h : Binary.ofFloat? x = some b) : b.IsDouble := by
  rw [ofFloat?_eq] at h
  generalize x.toModel.toBits.toBitVec.toNat = bits at h
  simp only at h
  split at h
  · cases h
  split at h
  · cases h
    exact ⟨by simp only; omega, le_refl _, by simp only; omega, .inr rfl⟩
  · cases h
    exact ⟨by simp only; omega, by simp only; omega, by simp only; omega,
      .inl (by simp only; omega)⟩

theorem unpack_of_ofFloat? (h : Binary.ofFloat? x = some b) : x.toModel.unpack = b.unpacked := by
  rw [ofFloat?_eq] at h
  simp only at h
  split at h
  · cases h
  rename_i he
  refine (unpack_of_not_ones he).trans ?_
  split at h
  · rename_i h0
    cases h
    exact congrArg _ (if_pos h0)
  · rename_i h0
    cases h
    exact congrArg _ (if_neg h0)

/-- The finite doubles are those that can be taken apart. -/
theorem isFinite_iff : x.isFinite = true ↔ ∃ b, Binary.ofFloat? x = some b := by
  change x.toModel.unpack.isFinite = true ↔ _
  constructor
  · intro h
    rw [ofFloat?_eq]
    simp only
    split
    · rename_i he
      have hones : x.toModel.unpack = _ := unpack_of_ones he
      rw [hones] at h
      split at h <;> cases h
    split
    · exact ⟨_, rfl⟩
    · exact ⟨_, rfl⟩
  · rintro ⟨b, hb⟩
    rw [unpack_of_ofFloat? hb, b.isFinite_unpacked]

theorem isNaN_of_isFinite (h : x.isFinite = true) : x.isNaN = false := by
  change x.toModel.unpack.isFinite = true at h
  change x.toModel.unpack.isNaN = false
  cases hx : x.toModel.unpack with
  | notANumber => rw [hx] at h; cases h
  | _ => rfl

theorem isNaN_of_ofFloat? (h : Binary.ofFloat? x = some b) : x.isNaN = false :=
  isNaN_of_isFinite (isFinite_iff.mpr ⟨b, h⟩)

/-- A double that is unpacked to some parts is taken apart into them. -/
theorem ofFloat?_of_unpack (hb : b.IsDouble) (h : x.toModel.unpack = b.unpacked) :
    Binary.ofFloat? x = some b := by
  have hfinite : x.isFinite = true := by
    change x.toModel.unpack.isFinite = true
    rw [h, b.isFinite_unpacked]
  obtain ⟨c, hc⟩ := isFinite_iff.mp hfinite
  have hsame := (isDouble_of_ofFloat? hc).unpacked_inj hb ((unpack_of_ofFloat? hc).symm.trans h)
  rw [hc, hsame]

/-! ## Packing -/

theorem unpackSign_packComponents {spec : Format} (s : Sign) (e : BitVec spec.exponentBits)
    (m : BitVec spec.mantissaBitsWithoutImplicit) :
    unpackSign (packComponents spec s e m) = s.toBitVec := by
  apply BitVec.eq_of_getLsbD_eq
  intro i hi
  obtain rfl : i = 0 := by omega
  simp [unpackSign, packComponents, BitVec.getLsbD_append, BitVec.getElem_append]

theorem ofBitVec_toBitVec (s : Sign) : Sign.ofBitVec s.toBitVec = s := by
  cases s <;> rfl

/-- What the fields of a finite double are unpacked to. -/
theorem unpack_packComponents {negative : Bool} {e m : Nat} (he : e < 2047) (hm : m < 2 ^ 52) :
    UnpackedFloat.unpack Format.binary64 (packComponents Format.binary64 (signFor negative)
      (BitVec.ofNat _ e) (BitVec.ofNat _ m)) =
      Binary.unpacked (if e = 0 then ⟨negative, m, -1074⟩
        else ⟨negative, m + 2 ^ 52, e - 1075⟩) := by
  generalize hv : packComponents Format.binary64 (signFor negative)
    (BitVec.ofNat _ e) (BitVec.ofNat _ m) = v
  have hexponent : v.toNat / 2 ^ 52 % 2 ^ 11 = e := by
    rw [← toNat_unpackExponent, ← hv, unpackExponent_packComponents, BitVec.toNat_ofNat]
    exact Nat.mod_eq_of_lt (by change e < 2 ^ 11; omega)
  have hmantissa : v.toNat % 2 ^ 52 = m := by
    rw [← toNat_unpackMantissa, ← hv, unpackMantissa_packComponents, BitVec.toNat_ofNat]
    exact Nat.mod_eq_of_lt hm
  have hsign : decide (2 ^ 63 ≤ v.toNat) = negative := by
    apply signFor_inj
    rw [signFor_decide, ← hv, unpackSign_packComponents, ofBitVec_toBitVec]
  rw [unpack_of_not_ones (by omega), hexponent, hmantissa, hsign]

/-- A double keeps the sign of its mantissa, the exponent of a mantissa of full length, and the
fraction. -/
theorem pack_unpacked (hb : b.IsDouble) : UnpackedFloat.pack Format.binary64 b.unpacked =
    packComponents Format.binary64 (signFor b.negative)
      (BitVec.ofNat _ (if 2 ^ 52 ≤ b.mantissa then (b.exponent + 1075).toNat else 0))
      (BitVec.ofNat _ (b.mantissa % 2 ^ 52)) := by
  have hlt := hb.mantissa_lt
  have hhigh := hb.exponent_le
  rcases Nat.eq_zero_or_pos b.mantissa with h0 | hpos
  · rw [Binary.unpacked_of_eq_zero h0, h0]
    rfl
  · have hfraction : BitVec.ofNat 52 b.mantissa = BitVec.ofNat 52 (b.mantissa % 2 ^ 52) := by
      apply BitVec.eq_of_toNat_eq
      simp only [BitVec.toNat_ofNat, Nat.mod_mod]
    have hbiased : (b.exponent + Format.binary64.exponentBias +
        Format.binary64.mantissaBitsWithoutImplicit).toNat = (b.exponent + 1075).toNat := by
      change (b.exponent + 1023 + 52).toNat = _
      omega
    have hlog : b.mantissa.log2 + 1 = Format.binary64.mantissaBits ↔ 2 ^ 52 ≤ b.mantissa := by
      change b.mantissa.log2 + 1 = 53 ↔ _
      rw [← Nat.le_log2 hpos.ne']
      have := (Nat.log2_lt hpos.ne').mpr hlt
      omega
    rw [Binary.unpacked_of_pos hpos, ← hfraction]
    unfold UnpackedFloat.pack
    simp only [hbiased, hlog]
    rw [if_neg (by omega)]
    split <;> rfl

/-- Packing loses nothing. -/
theorem unpack_pack (hb : b.IsDouble) :
    UnpackedFloat.unpack Format.binary64 (UnpackedFloat.pack Format.binary64 b.unpacked) =
      b.unpacked := by
  have hfields := hb
  obtain ⟨negative, m, e⟩ := b
  obtain ⟨hlt, hlow, hhigh, hfull⟩ := hfields
  simp only at hlt hlow hhigh hfull
  rw [pack_unpacked hb, unpack_packComponents (by simp only; split <;> omega)
    (Nat.mod_lt _ (by decide))]
  refine congrArg Binary.unpacked ?_
  simp only
  split
  · rename_i hfull
    rw [if_neg (by omega), Binary.mk.injEq]
    exact ⟨rfl, by omega, by omega⟩
  · rw [if_pos rfl, Binary.mk.injEq]
    exact ⟨rfl, by omega, by omega⟩

/-! ## Equality -/

theorem eq_of_bits (h : x.toModel.toBits.toBitVec.toNat = y.toModel.toBits.toBitVec.toNat) :
    x = y := by
  obtain ⟨⟨⟨bits⟩, _⟩⟩ := x
  obtain ⟨⟨⟨bits'⟩, _⟩⟩ := y
  obtain rfl : bits = bits' := BitVec.eq_of_toNat_eq h
  rfl

/-- Finite doubles with the same parts are the same. -/
theorem eq_of_ofFloat? (hx : Binary.ofFloat? x = some b) (hy : Binary.ofFloat? y = some b) :
    x = y := by
  apply eq_of_bits
  rw [ofFloat?_eq] at hx hy
  have hltx : x.toModel.toBits.toBitVec.toNat < 2 ^ 64 := x.toModel.toBits.toBitVec.isLt
  have hlty : y.toModel.toBits.toBitVec.toNat < 2 ^ 64 := y.toModel.toBits.toBitVec.isLt
  generalize x.toModel.toBits.toBitVec.toNat = m at hx hltx
  generalize y.toModel.toBits.toBitVec.toNat = n at hy hlty
  simp only at hx hy
  split at hx
  · cases hx
  split at hy
  · cases hy
  split at hx <;> split at hy <;> rw [← hy] at hx <;>
    simp only [Option.some.injEq, Binary.mk.injEq, decide_eq_decide] at hx <;> omega

theorem bits_of_infinity {s : Sign} (h : x.toModel.unpack = .infinity s) :
    x.toModel.toBits.toBitVec.toNat / 2 ^ 52 % 2 ^ 11 = 2047 ∧
      x.toModel.toBits.toBitVec.toNat % 2 ^ 52 = 0 ∧
      signFor (decide (2 ^ 63 ≤ x.toModel.toBits.toBitVec.toNat)) = s := by
  have hones : x.toModel.toBits.toBitVec.toNat / 2 ^ 52 % 2 ^ 11 = 2047 := by
    by_contra hnot
    have hunpacked : x.toModel.unpack = _ := unpack_of_not_ones hnot
    have hfinite : x.toModel.unpack.isFinite = true := by rw [hunpacked, Binary.isFinite_unpacked]
    rw [h] at hfinite
    cases hfinite
  have hunpacked : x.toModel.unpack = _ := unpack_of_ones hones
  rw [h] at hunpacked
  split at hunpacked
  · rename_i hzero
    exact ⟨hones, hzero, (signFor_decide _).trans (UnpackedFloat.infinity.inj hunpacked).symm⟩
  · cases hunpacked

theorem unpack_of_not_isFinite (hnan : x.isNaN = false) (h : ¬ x.isFinite = true) :
    ∃ s, x.toModel.unpack = .infinity s := by
  change x.toModel.unpack.isNaN = false at hnan
  change ¬ x.toModel.unpack.isFinite = true at h
  cases hx : x.toModel.unpack with
  | infinity s => exact ⟨s, rfl⟩
  | notANumber => rw [hx] at hnan; cases hnan
  | zero s => rw [hx] at h; exact absurd rfl h
  | finite s m e hm => rw [hx] at h; exact absurd rfl h

/-- Doubles are told apart by what they are unpacked to. -/
theorem eq_of_unpack (hnan : x.isNaN = false) (h : x.toModel.unpack = y.toModel.unpack) :
    x = y := by
  by_cases hfinite : x.isFinite = true
  · have hfinite' : y.isFinite = true := by
      change y.toModel.unpack.isFinite = true
      rw [← h]
      exact hfinite
    obtain ⟨b, hb⟩ := isFinite_iff.mp hfinite
    obtain ⟨c, hc⟩ := isFinite_iff.mp hfinite'
    rw [unpack_of_ofFloat? hb, unpack_of_ofFloat? hc] at h
    obtain rfl := (isDouble_of_ofFloat? hb).unpacked_inj (isDouble_of_ofFloat? hc) h
    exact eq_of_ofFloat? hb hc
  · obtain ⟨s, hs⟩ := unpack_of_not_isFinite hnan hfinite
    obtain ⟨hexponent, hfraction, hsign⟩ := bits_of_infinity hs
    obtain ⟨hexponent', hfraction', hsign'⟩ := bits_of_infinity (h.symm.trans hs)
    have hsame := decide_eq_decide.mp (signFor_inj (hsign.trans hsign'.symm))
    have hlt : x.toModel.toBits.toBitVec.toNat < 2 ^ 64 := x.toModel.toBits.toBitVec.isLt
    have hlt' : y.toModel.toBits.toBitVec.toNat < 2 ^ 64 := y.toModel.toBits.toBitVec.isLt
    exact eq_of_bits (by omega)

/-- What is neither finite nor not-a-number is one of two. -/
theorem eq_infinity_of_not_isFinite (hnan : x.isNaN = false) (h : ¬ x.isFinite = true) :
    x = infinity ∨ x = -infinity := by
  have hinfinity : infinity.toModel.unpack = .infinity .positive := rfl
  have hnegInfinity : (-infinity).toModel.unpack = .infinity .negative := rfl
  obtain ⟨s, hs⟩ := unpack_of_not_isFinite hnan h
  cases s with
  | positive => exact .inl (eq_of_unpack hnan (hs.trans hinfinity.symm))
  | negative => exact .inr (eq_of_unpack hnan (hs.trans hnegInfinity.symm))

/-- Zero of either sign. -/
def IsZero (x : Float) : Prop := x = 0.0 ∨ x = -0.0

theorem ofFloat?_zero : Binary.ofFloat? 0.0 = some ⟨false, 0, -1074⟩ := by decide +kernel

theorem ofFloat?_negZero : Binary.ofFloat? (-0.0) = some ⟨true, 0, -1074⟩ := by decide +kernel

theorem isZero_iff : IsZero x ↔ ∃ s, x.toModel.unpack = .zero s := by
  have hzero : (0.0 : Float).toModel.unpack = .zero .positive := unpack_of_ofFloat? ofFloat?_zero
  have hnegZero : (-0.0 : Float).toModel.unpack = .zero .negative :=
    unpack_of_ofFloat? ofFloat?_negZero
  constructor
  · rintro (rfl | rfl)
    · exact ⟨_, hzero⟩
    · exact ⟨_, hnegZero⟩
  · rintro ⟨s, hs⟩
    have hnan : x.isNaN = false := by
      change x.toModel.unpack.isNaN = false
      rw [hs]
      rfl
    cases s with
    | positive => exact .inl (eq_of_unpack hnan (hs.trans hzero.symm))
    | negative => exact .inr (eq_of_unpack hnan (hs.trans hnegZero.symm))

theorem isFinite_of_isZero (h : IsZero x) : x.isFinite = true := by
  rcases h with rfl | rfl
  · exact isFinite_iff.mpr ⟨_, ofFloat?_zero⟩
  · exact isFinite_iff.mpr ⟨_, ofFloat?_negZero⟩

theorem not_isZero_of_pos (h : Binary.ofFloat? x = some b) (hpos : 0 < b.mantissa) :
    ¬ IsZero x := by
  rintro (rfl | rfl)
  · cases ofFloat?_zero.symm.trans h
    cases hpos
  · cases ofFloat?_negZero.symm.trans h
    cases hpos

theorem isZero_of_eq_zero (h : Binary.ofFloat? x = some b) (hzero : b.mantissa = 0) : IsZero x :=
  isZero_iff.mpr ⟨_, (unpack_of_ofFloat? h).trans (Binary.unpacked_of_eq_zero hzero)⟩

/-- Doubles that compare as equal are the same ones, except that zeros of either sign are equal and
not-a-number is not. -/
theorem compare_eq_iff (u v : UnpackedFloat) : u.compare v = some .eq ↔
    u.isNaN = false ∧ (u = v ∨ (∃ s, u = .zero s) ∧ ∃ s, v = .zero s) := by
  fun_cases UnpackedFloat.compare u v
  all_goals simp only [UnpackedFloat.isNaN]
  case case3 s t => cases s <;> cases t <;> simp <;> rfl
  case case13 => simp [and_comm]
  case case16 => simp [and_comm]
  all_goals simp
  all_goals try (rintro rfl; simp_all)

/-- Equal doubles are the same ones, zeros of either sign aside, and not-a-number equals nothing. -/
theorem beq_iff : (x == y) = true ↔ x.isNaN = false ∧ (x = y ∨ IsZero x ∧ IsZero y) := by
  have hcompare : (x == y) = true ↔ x.isNaN = false ∧ (x.toModel.unpack = y.toModel.unpack ∨
      (∃ s, x.toModel.unpack = .zero s) ∧ ∃ s, y.toModel.unpack = .zero s) := by
    refine Iff.trans ?_ (compare_eq_iff x.toModel.unpack y.toModel.unpack)
    change (x.toModel.unpack.compare y.toModel.unpack == some Ordering.eq) = true ↔ _
    exact beq_iff_eq
  rw [hcompare, ← isZero_iff, ← isZero_iff]
  refine and_congr_right fun hnan => or_congr_left ⟨eq_of_unpack hnan, ?_⟩
  rintro rfl
  rfl

theorem beq_symm (h : (x == y) = true) : (y == x) = true := by
  obtain ⟨-, rfl | ⟨hx, hy⟩⟩ := beq_iff.mp h
  · exact h
  · exact beq_iff.mpr ⟨isNaN_of_isFinite (isFinite_of_isZero hy), .inr ⟨hy, hx⟩⟩

end FormulaSheet.Number
