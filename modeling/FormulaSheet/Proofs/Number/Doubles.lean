import FormulaSheet.Number.Numeral
import Mathlib

/-!
What a numeral denotes is a number: the nearest double may be infinite, but it is never
not-a-number (`isNaN_toFloat`). Not-a-number only comes from itself, from infinities that meet
zeros or one another, and from a zero divided by a zero, and scaling by powers of ten meets none
of these.
-/

namespace FormulaSheet.Number

open Float.Model (Format UnpackedFloat)
open Float.Model.UnpackedFloat

/-! ## Packing -/

theorem isNaN_unpack {spec : Format} {b : BitVec spec.numBits}
    (h : unpackExponent b = -1#_ → unpackMantissa b = 0#_) :
    (UnpackedFloat.unpack spec b).isNaN = false := by
  fun_cases UnpackedFloat.unpack with
  | case1 => rfl
  | case2 mantissa exponent hexponent hmantissa => exact absurd (h hexponent) hmantissa
  | case3 => rfl
  | case4 => rfl
  | case5 => rfl

/-- Numbers and infinities are packed as such. -/
theorem isNaN_unpack_pack (spec : Format) {u : UnpackedFloat} (h : u.isNaN = false) :
    (UnpackedFloat.unpack spec (u.pack spec)).isNaN = false := by
  apply isNaN_unpack
  fun_cases UnpackedFloat.pack with
  | case1 => cases h
  | case2 s => simp [packedInfinity]
  | case3 s => simp [packedZero]
  | case4 => simp [packedInfinity]
  | case5 s m e hm size biased hsmall hnormal =>
    intro hexponent
    rw [unpackExponent_packComponents] at hexponent
    -- an exponent of all ones is that of infinities
    have hbits := congrArg BitVec.toNat hexponent
    rw [BitVec.toNat_ofNat, Nat.mod_eq_of_lt (by omega), BitVec.neg_one_eq_allOnes,
      BitVec.toNat_allOnes] at hbits
    omega
  | case6 s m e hm size biased hsmall hnormal =>
    intro hexponent
    rw [unpackExponent_packComponents] at hexponent
    simp [Nat.ne_of_gt spec.he] at hexponent

theorem isNaN_pack {u : UnpackedFloat} (h : u.isNaN = false) : (Float.Model.pack u).isNaN = false :=
  isNaN_unpack_pack _ h

/-! ## Arithmetic -/

/-- A number that is neither zero nor infinite. -/
def IsScale : UnpackedFloat → Prop
  | .finite .. => True
  | _ => False

instance : DecidablePred IsScale
  | .finite .. => isTrue trivial
  | .notANumber | .infinity _ | .zero _ => isFalse id

theorem isNaN_roundWithAccuracy (spec : Format) (s : Sign) (m : Nat) (e : Int) (a : Accuracy) :
    (roundWithAccuracy spec s m e a).isNaN = false := by
  unfold roundWithAccuracy
  simp only
  split
  · rfl
  · rfl

theorem isNaN_normalize (spec : Format) (m e : Int) (s : Sign) :
    (UnpackedFloat.normalize spec m e s).isNaN = false := by
  unfold UnpackedFloat.normalize
  split
  · exact isNaN_roundWithAccuracy ..
  · rfl
  · exact isNaN_roundWithAccuracy ..

variable {spec : Format} {u v : UnpackedFloat}

theorem isNaN_mul (hu : u.isNaN = false) (hv : IsScale v) :
    (UnpackedFloat.mul spec u v).isNaN = false := by
  cases v with
  | finite s m e hm =>
    cases u with
    | notANumber => cases hu
    | infinity s => rfl
    | zero s => rfl
    | finite s m e hm => exact isNaN_roundWithAccuracy ..
  | _ => cases hv

theorem isNaN_div (hu : u.isNaN = false) (hv : IsScale v) :
    (UnpackedFloat.div spec u v).isNaN = false := by
  cases v with
  | finite s m e hm =>
    cases u with
    | notANumber => cases hu
    | infinity s => rfl
    | zero s => rfl
    | finite s m e hm => exact isNaN_roundWithAccuracy ..
  | _ => cases hv

theorem isNaN_neg {x : Float} (h : x.isNaN = false) : (-x).isNaN = false := by
  refine isNaN_pack ?_
  change x.toModel.unpack.isNaN = false at h
  generalize x.toModel.unpack = u at h
  cases u with
  | notANumber => cases h
  | _ => rfl

/-! ## Decimals -/

theorem isScale_powerOfTen : ∀ e : Fin 23,
    IsScale (Float.exactlyRepresentablePowersOfTen[e]).toModel.unpack := by
  decide +kernel

theorem isNaN_unpacked_ofScientific (m : Nat) (e : Int) :
    (UnpackedFloat.ofScientific spec m e).isNaN = false := by
  unfold UnpackedFloat.ofScientific
  split
  · rfl
  split
  · rfl
  split
  · rfl
  split
  · exact isNaN_mul rfl trivial
  · exact isNaN_div rfl trivial

theorem isNaN_ofScientific (m : Nat) (negative : Bool) (e : Nat) :
    (Float.ofScientific m negative e).isNaN = false := by
  unfold Float.ofScientific
  split
  · rename_i hsmall
    have hm : m.toUInt64.toFloat.toModel.unpack.isNaN = false :=
      isNaN_unpack_pack _ (isNaN_normalize ..)
    have hpower := isScale_powerOfTen ⟨e, by omega⟩
    cases negative with
    | true => exact isNaN_pack (isNaN_div hm hpower)
    | false => exact isNaN_pack (isNaN_mul hm hpower)
  · exact isNaN_pack (isNaN_unpacked_ofScientific ..)

theorem isNaN_ofNat (n : Nat) : (Float.ofNat n).isNaN = false :=
  isNaN_ofScientific n false 0

theorem isNaN_nan : nan.isNaN = true := by decide +kernel

theorem isNaN_infinity : infinity.isNaN = false := by decide +kernel

/-- A numeral denotes a number, be it infinite. -/
theorem isNaN_toFloat (n : Numeral) : n.toFloat.isNaN = false := by
  have hmagnitude : (if n.mantissa = 0 ∨ (n.mantissa.log2 : Int) / 3 + 2 + n.exponent < -400 then
      0.0
    else if n.exponent > 400 then infinity
    else Float.ofScientific n.mantissa (n.exponent < 0) n.exponent.natAbs).isNaN = false := by
    split
    · decide +kernel
    split
    · exact isNaN_infinity
    · exact isNaN_ofScientific ..
  unfold Numeral.toFloat
  simp only
  split
  · exact isNaN_neg hmagnitude
  · exact hmagnitude

end FormulaSheet.Number
