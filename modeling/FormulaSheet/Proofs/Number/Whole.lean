import FormulaSheet.Proofs.Number.Parts

/-!
Whole numbers of fifty-three bits are doubles exactly, since rounding has nothing to do for them
(`roundWithAccuracy_exact`). A whole double of no greater size is therefore found again in its whole
number (`ofInt_truncated`).
-/

namespace FormulaSheet.Number

open Float.Model (Format UnpackedFloat totalExponent)
open Float.Model.UnpackedFloat

variable {x : Float} {b : Binary}

/-! ## Rounding what needs none -/

/-- Shifting out zeros is exact. -/
theorem shiftRight_exact (m k : Nat) :
    ExtendedMantissa.ofMantissaAndAccuracy (m * 2 ^ k) .exact >>> k = ⟨m, false, false⟩ := by
  change Nat.repeat ExtendedMantissa.shiftRightOne k _ = _
  induction k generalizing m with
  | zero => simp [Nat.repeat, ExtendedMantissa.ofMantissaAndAccuracy]
  | succ k ih =>
    have hshift : m * 2 ^ (k + 1) = m * 2 * 2 ^ k := by ring
    rw [Nat.repeat, hshift, ih]
    simp [ExtendedMantissa.shiftRightOne]

theorem targetExponent_totalExponent (hb : b.IsDouble) (hpos : 0 < b.mantissa) :
    Format.binary64.targetExponent (totalExponent b.mantissa b.exponent) = b.exponent := by
  have hlow := hb.exponent_ge
  have hlog : b.mantissa.log2 < 53 := (Nat.log2_lt hpos.ne').mpr hb.mantissa_lt
  change max ((b.mantissa.log2 + 1 + b.exponent : Int) - 53) (-1074) = _
  rcases hb.full with h | h
  · have hfull : 52 ≤ b.mantissa.log2 := (Nat.le_log2 hpos.ne').mpr h
    omega
  · omega

theorem log2_mul_two_pow {m : Nat} (hpos : 0 < m) (k : Nat) : (m * 2 ^ k).log2 = m.log2 + k := by
  induction k with
  | zero => simp
  | succ k ih =>
    have hdouble : m * 2 ^ (k + 1) = 2 * (m * 2 ^ k) := by ring
    rw [hdouble, Nat.log2_two_mul (by positivity), ih]
    rfl

/-- Rounding a double that is written with a longer mantissa gives it back. -/
theorem roundWithAccuracy_exact (hb : b.IsDouble) (hpos : 0 < b.mantissa) (s : Sign) (k : Nat) :
    roundWithAccuracy Format.binary64 s (b.mantissa * 2 ^ k) (b.exponent - k) .exact =
      .finite s b.mantissa b.exponent hpos := by
  have htotal : totalExponent (b.mantissa * 2 ^ k) (b.exponent - k) =
      totalExponent b.mantissa b.exponent := by
    unfold totalExponent
    rw [log2_mul_two_pow hpos]
    omega
  have hfirst : shiftToTargetExponent Format.binary64 (b.mantissa * 2 ^ k) (b.exponent - k) .exact =
      (⟨b.mantissa, false, false⟩, b.exponent) := by
    have hamount : (b.exponent - (b.exponent - k)).toNat = k := by omega
    simp only [shiftToTargetExponent, shiftToExponent, htotal, targetExponent_totalExponent hb hpos,
      hamount, shiftRight_exact, Prod.mk.injEq, true_and]
    omega
  have hsecond : shiftToTargetExponent Format.binary64 b.mantissa b.exponent .exact =
      (⟨b.mantissa, false, false⟩, b.exponent) := by
    have hnone := shiftRight_exact b.mantissa 0
    rw [pow_zero, mul_one] at hnone
    simp only [shiftToTargetExponent, shiftToExponent, targetExponent_totalExponent hb hpos,
      sub_self, Int.toNat_zero, hnone, Nat.cast_zero, add_zero]
  have hrounded : ExtendedMantissa.roundedMantissa ⟨b.mantissa, false, false⟩ = b.mantissa := rfl
  simp only [roundWithAccuracy, hfirst, hrounded, hsecond]
  exact dif_neg hpos.ne'

/-! ## From whole numbers to doubles -/

theorem ofFloat?_one : Binary.ofFloat? 1.0 = some ⟨false, 2 ^ 52, -52⟩ := by decide +kernel

/-- Whole numbers are shifted until they have all the bits of a mantissa. -/
theorem round_whole (hb : b.IsDouble) {n k : Nat} (hn : 0 < n) (hmantissa : b.mantissa = n * 2 ^ k)
    (hexponent : b.exponent = -k) (hpos : 0 < b.mantissa) (s : Sign) :
    UnpackedFloat.round Format.binary64 s n 0 = .finite s b.mantissa b.exponent hpos := by
  have htarget : Format.binary64.targetExponent (totalExponent n 0) = b.exponent := by
    rw [← targetExponent_totalExponent hb hpos]
    unfold totalExponent
    rw [hmantissa, log2_mul_two_pow hn, hexponent]
    congr 1
    omega
  have hshift : decreaseExponent n 0 b.exponent = (b.mantissa, b.exponent) := by
    have hamount : (0 - b.exponent).toNat = k := by omega
    simp only [decreaseExponent, hamount, Nat.shiftLeft_eq, hmantissa, Prod.mk.injEq, true_and]
    omega
  have hexact := roundWithAccuracy_exact hb hpos s 0
  rw [pow_zero, mul_one, Nat.cast_zero, sub_zero] at hexact
  simp only [UnpackedFloat.round, htarget, hshift, hexact]

theorem unpack_toFloat (hb : b.IsDouble) (hsign : b.negative = false) {n k : Nat} (hn : 0 < n)
    (hmantissa : b.mantissa = n * 2 ^ k) (hexponent : b.exponent = -k) :
    n.toUInt64.toFloat.toModel.unpack = b.unpacked := by
  have hlt := hb.mantissa_lt
  have hle : n * 1 ≤ n * 2 ^ k := Nat.mul_le_mul_left n Nat.one_le_two_pow
  have hpos : 0 < b.mantissa := by omega
  have hnat : n.toUInt64.toNat = n := by
    rw [Nat.toUInt64, UInt64.toNat_ofNat']
    omega
  change UnpackedFloat.unpack Format.binary64 (UnpackedFloat.pack Format.binary64
    (normalize Format.binary64 (n.toUInt64.toNat : Int) 0 .positive)) = _
  have hgreater : compare (n : Int) 0 = .gt := Int.compare_eq_gt.mpr (by omega)
  rw [hnat, UnpackedFloat.normalize, hgreater]
  simp only [Int.toNat_natCast]
  have hunpacked := Binary.unpacked_of_pos hpos
  rw [hsign] at hunpacked
  rw [round_whole hb hn hmantissa hexponent hpos]
  change UnpackedFloat.unpack Format.binary64 (UnpackedFloat.pack Format.binary64
    (.finite (signFor false) b.mantissa b.exponent hpos)) = _
  rw [← hunpacked, unpack_pack hb]

theorem ofFloat?_ofNat (hb : b.IsDouble) (hsign : b.negative = false) {n k : Nat} (hn : 0 < n)
    (hmantissa : b.mantissa = n * 2 ^ k) (hexponent : b.exponent = -k) :
    Binary.ofFloat? (Float.ofNat n) = some b := by
  have hlt := hb.mantissa_lt
  have hle : n * 1 ≤ n * 2 ^ k := Nat.mul_le_mul_left n Nat.one_le_two_pow
  have hpos : 0 < b.mantissa := by omega
  have hfits : n < 2 ^ 53 ∧ 0 ≤ 22 := by omega
  have hnat : Float.ofNat n = n.toUInt64.toFloat * 1.0 := by
    change Float.ofScientific n false 0 = _
    unfold Float.ofScientific
    rw [dif_pos hfits]
    rfl
  have hone : (1.0 : Float).toModel.unpack = .finite .positive (2 ^ 52) (-52) (by decide) :=
    unpack_of_ofFloat? ofFloat?_one
  have hunpacked := Binary.unpacked_of_pos hpos
  rw [hsign] at hunpacked
  apply ofFloat?_of_unpack hb
  rw [hnat]
  change UnpackedFloat.unpack Format.binary64 (UnpackedFloat.pack Format.binary64
    (UnpackedFloat.mul Format.binary64 n.toUInt64.toFloat.toModel.unpack
      (1.0 : Float).toModel.unpack)) = _
  rw [unpack_toFloat hb hsign hn hmantissa hexponent, hone, hunpacked]
  -- one is a mantissa of fifty-two zeros behind its first bit, which rounding takes off again
  have hexact := roundWithAccuracy_exact hb hpos (signFor false) 52
  change UnpackedFloat.unpack Format.binary64 (UnpackedFloat.pack Format.binary64
    (roundWithAccuracy Format.binary64 (signFor false) (b.mantissa * 2 ^ 52) (b.exponent - 52)
      .exact)) = _
  rw [show b.exponent - 52 = b.exponent - (52 : Nat) from rfl, hexact, ← hunpacked, unpack_pack hb]

/-! ## Whole doubles -/

/-- A whole double of at most fifty-three bits is a whole number whose bits are shifted. -/
theorem exists_whole (hexponent : b.exponent ≤ 0) (hwhole : b.isWhole = true) :
    ∃ n k : Nat, b.mantissa = n * 2 ^ k ∧ b.exponent = -k ∧
      b.truncated = if b.negative then -(n : Int) else n := by
  have hmagnitude : b.magnitude = (b.mantissa, 2 ^ (-b.exponent).toNat) := by
    unfold Binary.magnitude
    split
    · rfl
    · have hzero : b.exponent = 0 := by omega
      simp [hzero]
  simp only [Binary.isWhole, hmagnitude, beq_iff_eq] at hwhole
  refine ⟨b.mantissa / 2 ^ (-b.exponent).toNat, (-b.exponent).toNat, ?_, by omega, ?_⟩
  · rw [Nat.div_mul_cancel (Nat.dvd_of_mod_eq_zero hwhole)]
  · simp only [Binary.truncated, hmagnitude]

theorem ofFloat?_limit : Binary.ofFloat? 9.0e15 = some ⟨false, 9000000000000000, 0⟩ := by
  decide +kernel

/-- The number without its sign. -/
def Binary.unsigned (b : Binary) : Binary := { b with negative := false }

theorem isDouble_unsigned (hb : b.IsDouble) : b.unsigned.IsDouble :=
  ⟨hb.mantissa_lt, hb.exponent_ge, hb.exponent_le, hb.full⟩

theorem unpacked_unsigned_of_pos (hpos : 0 < b.mantissa) :
    b.unsigned.unpacked = .finite .positive b.mantissa b.exponent hpos :=
  Binary.unpacked_of_pos (b := b.unsigned) hpos

theorem unpack_abs (h : Binary.ofFloat? x = some b) :
    x.abs.toModel.unpack = b.unsigned.unpacked := by
  have habs : b.unpacked.abs = b.unsigned.unpacked := by
    rcases Nat.eq_zero_or_pos b.mantissa with h0 | hpos
    · rw [Binary.unpacked_of_eq_zero h0, Binary.unpacked_of_eq_zero (b := b.unsigned) h0]
      rfl
    · rw [Binary.unpacked_of_pos hpos, unpacked_unsigned_of_pos hpos]
      rfl
  change UnpackedFloat.unpack Format.binary64 (UnpackedFloat.pack Format.binary64
    x.toModel.unpack.abs) = _
  rw [unpack_of_ofFloat? h, habs, unpack_pack (isDouble_unsigned (isDouble_of_ofFloat? h))]

theorem exponent_le_of_abs_lt (h : Binary.ofFloat? x = some b) (hpos : 0 < b.mantissa)
    (hsmall : x.abs < 9.0e15) : b.exponent ≤ 0 := by
  have hlt : x.abs.toModel < (9.0e15 : Float).toModel := of_decide_eq_true hsmall
  change (x.abs.toModel.unpack.compare (9.0e15 : Float).toModel.unpack == some Ordering.lt) = true
    at hlt
  have hlimit : (9.0e15 : Float).toModel.unpack =
      .finite .positive 9000000000000000 0 (by decide) :=
    unpack_of_ofFloat? ofFloat?_limit
  rw [unpack_abs h, unpacked_unsigned_of_pos hpos, hlimit, beq_iff_eq] at hlt
  have hthen : (compare b.exponent 0).then (compare b.mantissa 9000000000000000) = .lt :=
    Option.some.inj hlt
  by_contra hgreater
  rw [Int.compare_eq_gt.mpr (by omega)] at hthen
  cases hthen

/-- A whole double of some size is recovered from its whole number, unless it is zero. -/
theorem ofFloat?_ofInt_truncated (h : Binary.ofFloat? x = some b) (hwhole : b.isWhole = true)
    (hsmall : x.abs < 9.0e15) (hpos : 0 < b.mantissa) :
    Binary.ofFloat? (Float.ofInt b.truncated) = some b := by
  have hb := isDouble_of_ofFloat? h
  obtain ⟨n, k, hmantissa, hexponent, htruncated⟩ :=
    exists_whole (exponent_le_of_abs_lt h hpos hsmall) hwhole
  have hn : 0 < n := by
    rw [hmantissa] at hpos
    exact Nat.pos_of_mul_pos_right hpos
  rw [htruncated]
  cases hsign : b.negative with
  | false => exact ofFloat?_ofNat hb hsign hn hmantissa hexponent
  | true =>
    obtain ⟨m, rfl⟩ := Nat.exists_eq_succ_of_ne_zero hn.ne'
    have habs := ofFloat?_ofNat (isDouble_unsigned hb) rfl hn hmantissa hexponent
    have hneg : b.unsigned.unpacked.neg = b.unpacked := by
      rw [unpacked_unsigned_of_pos hpos, Binary.unpacked_of_pos hpos, hsign]
      rfl
    apply ofFloat?_of_unpack hb
    change UnpackedFloat.unpack Format.binary64 (UnpackedFloat.pack Format.binary64
      (Float.ofNat (m + 1)).toModel.unpack.neg) = _
    rw [unpack_of_ofFloat? habs, hneg, unpack_pack hb]

theorem ofFloat?_ofInt_zero : Binary.ofFloat? (Float.ofInt 0) = some ⟨false, 0, -1074⟩ := by
  decide +kernel

/-- A whole double of less than fifty-three bits equals the double of its whole number. -/
theorem ofInt_truncated (h : Binary.ofFloat? x = some b) (hwhole : b.isWhole = true)
    (hsmall : x.abs < 9.0e15) : (Float.ofInt b.truncated == x) = true := by
  rcases Nat.eq_zero_or_pos b.mantissa with h0 | hpos
  · have hmagnitude : b.magnitude.1 = 0 := by
      unfold Binary.magnitude
      split <;> simp [h0]
    have htruncated : b.truncated = 0 := by simp [Binary.truncated, hmagnitude]
    have hzero : IsZero (Float.ofInt 0) := isZero_of_eq_zero ofFloat?_ofInt_zero rfl
    rw [htruncated]
    exact beq_iff.mpr
      ⟨isNaN_of_ofFloat? ofFloat?_ofInt_zero, .inr ⟨hzero, isZero_of_eq_zero h h0⟩⟩
  · have hback := ofFloat?_ofInt_truncated h hwhole hsmall hpos
    exact beq_iff.mpr ⟨isNaN_of_ofFloat? hback, .inl (eq_of_ofFloat? hback h)⟩

end FormulaSheet.Number
