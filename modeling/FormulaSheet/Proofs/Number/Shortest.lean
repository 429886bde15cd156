import FormulaSheet.Number.Decimal
import FormulaSheet.Proofs.Number.Parts

/-!
The decimals that round to a double. They form an interval around it, and the intervals of two
doubles do not meet (`Covers.unique`). Decimals of seventeen digits are dense enough for one of them
to lie in the interval (`covers_of_near`), so that the search for the shortest one succeeds and its
result rounds to the double (`covers_shortest`).
-/

namespace FormulaSheet.Number

/-- The number that a decimal stands for. -/
def Decimal.value (d : Decimal) : ℚ := d.digits * 10 ^ d.exponent

namespace Binary

variable {b c : Binary} {q r : ℚ}

/-- The number without its sign. -/
def size (b : Binary) : ℚ := b.mantissa * 2 ^ b.exponent

/-- The lower end of the interval in quarters of the last place: half a place below the number, or a
quarter where the places below are half as wide. -/
def lowQuarters (b : Binary) : Nat :=
  if b.mantissa = 2 ^ 52 ∧ b.exponent > -1074 then 4 * b.mantissa - 1 else 4 * b.mantissa - 2

def lower (b : Binary) : ℚ := b.lowQuarters * 2 ^ (b.exponent - 2)

def upper (b : Binary) : ℚ := (4 * b.mantissa + 2 : Nat) * 2 ^ (b.exponent - 2)

/-- The interval of the numbers that round to `b`; its ends belong to it when the mantissa is
even. -/
def Covers (b : Binary) (q : ℚ) : Prop :=
  if b.mantissa % 2 = 0 then b.lower ≤ q ∧ q ≤ b.upper else b.lower < q ∧ q < b.upper

/-! ## Comparing decimals with doubles -/

theorem zpow_mul_pow_toNat {x : ℚ} (hx : x ≠ 0) (k : Int) :
    x ^ k * x ^ (-k).toNat = x ^ k.toNat := by
  rw [← zpow_natCast, ← zpow_natCast, ← zpow_add₀ hx]
  congr 1
  omega

/-- The comparison in whole numbers is one of the numbers themselves. -/
theorem compareScaled_eq (a : Nat) (k : Int) (n : Nat) (e : Int) :
    compareScaled a k n e = compare ((a : ℚ) * 10 ^ k) (n * 2 ^ e) := by
  -- both sides are multiplied by the powers that stand in denominators
  have hden : (0 : ℚ) < 10 ^ (-k).toNat * 2 ^ (-e).toNat := by positivity
  have hleft : (a : ℚ) * 10 ^ k * (10 ^ (-k).toNat * 2 ^ (-e).toNat) =
      (a * Nat.pow 10 k.toNat * Nat.pow 2 (-e).toNat : Nat) := by
    have hten := zpow_mul_pow_toNat (x := 10) (by norm_num) k
    simp only [Nat.pow_eq, Nat.cast_mul, Nat.cast_pow, Nat.cast_ofNat, ← hten]
    ring
  have hright : (n : ℚ) * 2 ^ e * (10 ^ (-k).toNat * 2 ^ (-e).toNat) =
      (n * Nat.pow 2 e.toNat * Nat.pow 10 (-k).toNat : Nat) := by
    have htwo := zpow_mul_pow_toNat (x := 2) (by norm_num) e
    simp only [Nat.pow_eq, Nat.cast_mul, Nat.cast_pow, Nat.cast_ofNat, ← htwo]
    ring
  rw [← cmp_eq_compare, ← cmp_mul_pos_right hden, hleft, hright,
    Nat.strictMono_cast.cmp_map_eq, cmp_eq_compare]
  rfl

theorem readsBack_iff (b : Binary) (a : Nat) (k : Int) :
    b.readsBack a k = true ↔ b.Covers (a * 10 ^ k) := by
  have hlower : compareScaled a k b.lowQuarters (b.exponent - 2) =
      compare ((a : ℚ) * 10 ^ k) b.lower :=
    compareScaled_eq ..
  have hupper : compareScaled a k (4 * b.mantissa + 2) (b.exponent - 2) =
      compare ((a : ℚ) * 10 ^ k) b.upper := compareScaled_eq ..
  have hunfold : b.readsBack a k =
      if b.mantissa % 2 = 0 then
        compareScaled a k b.lowQuarters (b.exponent - 2) != .lt &&
          compareScaled a k (4 * b.mantissa + 2) (b.exponent - 2) != .gt
      else
        compareScaled a k b.lowQuarters (b.exponent - 2) == .gt &&
          compareScaled a k (4 * b.mantissa + 2) (b.exponent - 2) == .lt := rfl
  rw [hunfold, hlower, hupper, Covers]
  split
  · simp only [Bool.and_eq_true, bne_iff_ne, ne_eq, compare_lt_iff_lt, compare_gt_iff_gt, not_lt]
  · simp only [Bool.and_eq_true, beq_iff_eq, compare_lt_iff_lt, compare_gt_iff_gt]

/-! ## The intervals of two doubles -/

theorem Covers.lower_le (h : b.Covers q) : b.lower ≤ q := by
  unfold Covers at h
  split at h
  · exact h.1
  · exact h.1.le

theorem Covers.le_upper (h : b.Covers q) : q ≤ b.upper := by
  unfold Covers at h
  split at h
  · exact h.2
  · exact h.2.le

theorem Covers.lower_ne (h : b.Covers q) (hodd : b.mantissa % 2 = 1) : b.lower ≠ q := by
  unfold Covers at h
  rw [if_neg (by omega)] at h
  exact h.1.ne

theorem Covers.ne_upper (h : b.Covers q) (hodd : b.mantissa % 2 = 1) : q ≠ b.upper := by
  unfold Covers at h
  rw [if_neg (by omega)] at h
  exact h.2.ne

/-- The interval of the greater double begins no lower than the one of the smaller ends, and where
they touch one of the mantissas is odd. -/
theorem quarters_le (hb : b.IsDouble) (hc : c.IsDouble) {j : Nat}
    (hexponent : c.exponent = b.exponent + j) (hlt : j = 0 → b.mantissa < c.mantissa) :
    4 * b.mantissa + 2 ≤ c.lowQuarters * 2 ^ j ∧
      (4 * b.mantissa + 2 = c.lowQuarters * 2 ^ j → b.mantissa % 2 = 1 ∨ c.mantissa % 2 = 1) := by
  have hbfull := hb.full
  have hcfull := hc.full
  have hmax := hb.mantissa_lt
  have hmin := hb.exponent_ge
  cases j with
  | zero =>
    -- at one exponent the mantissas are whole places apart
    have hmantissa := hlt rfl
    have hquarters : c.lowQuarters = 4 * c.mantissa - 2 := if_neg (by omega)
    rw [hquarters, pow_zero, mul_one]
    omega
  | succ j =>
    -- at a lower exponent even the greatest mantissa is too small
    have hquarters : 2 ^ 54 - 1 ≤ c.lowQuarters := by
      unfold lowQuarters
      split <;> omega
    have hdouble : c.lowQuarters * 2 ≤ c.lowQuarters * 2 ^ (j + 1) :=
      Nat.mul_le_mul_left _ (Nat.le_self_pow (by omega) 2)
    omega

theorem Covers.false_of_lt (hb : b.IsDouble) (hc : c.IsDouble) {j : Nat}
    (hexponent : c.exponent = b.exponent + j) (hlt : j = 0 → b.mantissa < c.mantissa)
    (hbq : b.Covers q) (hcq : c.Covers q) : False := by
  obtain ⟨hle, htouch⟩ := quarters_le hb hc hexponent hlt
  have hunit : (0 : ℚ) < 2 ^ (b.exponent - 2) := by positivity
  have hlower : c.lower = (c.lowQuarters * 2 ^ j : Nat) * 2 ^ (b.exponent - 2) := by
    have hpower : (2 : ℚ) ^ (c.exponent - 2) = 2 ^ j * 2 ^ (b.exponent - 2) := by
      rw [← zpow_natCast, ← zpow_add₀ (by norm_num)]
      congr 1
      omega
    rw [lower, hpower]
    push_cast
    ring
  have hends : b.upper ≤ c.lower := by
    rw [hlower, upper]
    exact mul_le_mul_of_nonneg_right (by exact_mod_cast hle) hunit.le
  have hq : q = b.upper := le_antisymm hbq.le_upper (hends.trans hcq.lower_le)
  have hq' : c.lower = q := le_antisymm hcq.lower_le (hq ▸ hends)
  have hmeet : 4 * b.mantissa + 2 = c.lowQuarters * 2 ^ j := by
    have hsame := hq.symm.trans hq'.symm
    rw [hlower, upper] at hsame
    exact_mod_cast mul_right_cancel₀ hunit.ne' hsame
  rcases htouch hmeet with hodd | hodd
  · exact hbq.ne_upper hodd hq
  · exact hcq.lower_ne hodd hq'

/-- No number rounds to two doubles. -/
theorem Covers.unique (hb : b.IsDouble) (hc : c.IsDouble) (hbq : b.Covers q) (hcq : c.Covers q) :
    b.mantissa = c.mantissa ∧ b.exponent = c.exponent := by
  rcases lt_trichotomy b.exponent c.exponent with h | h | h
  · obtain ⟨j, hj⟩ := Int.le.dest h.le
    exact (hbq.false_of_lt hb hc hj.symm (by omega) hcq).elim
  · refine ⟨?_, h⟩
    rcases lt_trichotomy b.mantissa c.mantissa with hm | hm | hm
    · exact (hbq.false_of_lt hb hc (j := 0) (by omega) (fun _ => hm) hcq).elim
    · exact hm
    · exact (hcq.false_of_lt hc hb (j := 0) (by omega) (fun _ => hm) hbq).elim
  · obtain ⟨j, hj⟩ := Int.le.dest h.le
    exact (hcq.false_of_lt hc hb hj.symm (by omega) hbq).elim

/-! ## Seventeen digits suffice -/

/-- What differs from a double by a small enough part of it rounds to the double. -/
theorem covers_of_near (hb : b.IsDouble) (hpos : 0 < b.mantissa)
    (hnear : |q - b.size| * (2 * 10 ^ 16) ≤ b.size) : b.Covers q := by
  have hunit : (0 : ℚ) < 2 ^ b.exponent := by positivity
  have hquarter : (2 : ℚ) ^ (b.exponent - 2) = 2 ^ b.exponent / 4 := by
    rw [zpow_sub₀ (by norm_num)]
    norm_num
  have hmax : (b.mantissa : ℚ) < 2 ^ 53 := by exact_mod_cast hb.mantissa_lt
  obtain ⟨hbelow, habove⟩ := abs_le.mp ((le_div_iff₀ (by norm_num)).mpr hnear)
  have hlower : b.lower < q := by
    unfold lower lowQuarters
    rw [hquarter]
    unfold size at hbelow
    split
    · rename_i hleast
      rw [hleast.1] at hbelow ⊢
      push_cast at hbelow ⊢
      nlinarith
    · have hcast : ((4 * b.mantissa - 2 : Nat) : ℚ) = 4 * b.mantissa - 2 := by
        rw [Nat.cast_sub (by omega)]
        push_cast
        ring
      rw [hcast]
      nlinarith
  have hupper : q < b.upper := by
    unfold upper
    rw [hquarter]
    unfold size at habove
    push_cast
    nlinarith
  unfold Covers
  split
  · exact ⟨hlower.le, hupper.le⟩
  · exact ⟨hlower, hupper⟩

/-- Powers of ten and of two whose exponents are in a fitting proportion. -/
theorem zpow_le_zpow_of_mul_le {p l : Int} {s t : Nat} (ht : t ≠ 0)
    (hpowers : (10 : ℚ) ^ (s * l) ≤ 2 ^ (t * l)) (hle : t * p ≤ s * l) : (10 : ℚ) ^ p ≤ 2 ^ l := by
  have hraised : ((10 : ℚ) ^ p) ^ t ≤ (2 ^ l) ^ t := by
    calc ((10 : ℚ) ^ p) ^ t = 10 ^ (t * p) := by rw [← zpow_natCast, ← zpow_mul, mul_comm]
      _ ≤ 10 ^ (s * l) := zpow_le_zpow_right₀ (by norm_num) hle
      _ ≤ 2 ^ (t * l) := hpowers
      _ = (2 ^ l) ^ t := by rw [← zpow_natCast, ← zpow_mul, mul_comm]
  exact (pow_le_pow_iff_left₀ (by positivity) (by positivity) ht).mp hraised

/-- The guess at the power of ten is at most one too high, for powers of two in the range of
doubles. -/
theorem zpow_guess_le {l : Int} (hlow : -1074 ≤ l) (hhigh : l ≤ 1023) :
    (10 : ℚ) ^ (l * 30103 / 100000 - 1) ≤ 2 ^ l := by
  have hguess : 100000 * (l * 30103 / 100000) ≤ l * 30103 := Int.mul_ediv_self_le (by norm_num)
  rcases le_total 0 l with h | h
  · -- the logarithm of two is at least 59 / 196
    refine zpow_le_zpow_of_mul_le (s := 59) (t := 196) (by norm_num) ?_ (by omega)
    obtain ⟨n, rfl⟩ := Int.eq_ofNat_of_zero_le h
    simp only [zpow_mul, zpow_natCast]
    exact pow_le_pow_left₀ (by norm_num) (by norm_num) n
  · -- and less than 28 / 93
    refine zpow_le_zpow_of_mul_le (s := 28) (t := 93) (by norm_num) ?_ (by omega)
    obtain ⟨n, hn⟩ := Int.eq_ofNat_of_zero_le (neg_nonneg.mpr h)
    obtain rfl : l = -n := by omega
    simp only [zpow_mul, zpow_natCast, zpow_neg]
    exact inv_anti₀ (by positivity) (pow_le_pow_left₀ (by norm_num) (by norm_num) n)

theorem pow_decimalSize_le (hb : b.IsDouble) (hpos : 0 < b.mantissa) :
    (10 : ℚ) ^ (b.decimalSize - 1) ≤ b.size := by
  have hlow := hb.exponent_ge
  have hhigh := hb.exponent_le
  have hlog : b.mantissa.log2 < 53 := (Nat.log2_lt hpos.ne').mpr hb.mantissa_lt
  have hpower : (2 : ℚ) ^ ((b.mantissa.log2 : Int) + b.exponent) ≤ b.size := by
    rw [zpow_add₀ (by norm_num), zpow_natCast, size]
    have hself : (2 : ℚ) ^ b.mantissa.log2 ≤ b.mantissa := by
      exact_mod_cast Nat.log2_self_le hpos.ne'
    gcongr
  have hnot : ∀ e, ¬ (compareScaled 1 e b.mantissa b.exponent == .gt) = true →
      (10 : ℚ) ^ e ≤ b.size := by
    intro e he
    rw [compareScaled_eq, beq_iff_eq, compare_gt_iff_gt, Nat.cast_one, one_mul, not_lt] at he
    exact he
  unfold decimalSize
  simp only
  split
  · exact (zpow_guess_le (by omega) (by omega)).trans hpower
  rename_i hfirst
  split
  · rw [add_sub_cancel_right]
    exact hnot _ hfirst
  · rename_i hsecond
    have hstep : ∀ g : Int, g + 2 - 1 = g + 1 := by intro g; ring
    rw [hstep]
    exact hnot _ hsecond

/-- Of the multiples of a power of ten next to a double, one lies within half a step of it. -/
theorem exists_neighbour (b : Binary) (k : Int) :
    let num := b.mantissa * Nat.pow 2 b.exponent.toNat * Nat.pow 10 (-k).toNat
    let den := Nat.pow 2 (-b.exponent).toNat * Nat.pow 10 k.toNat
    ∃ a : Nat, (a = num / den ∨ a = num / den + 1) ∧ 2 * |(a : ℚ) * 10 ^ k - b.size| ≤ 10 ^ k := by
  intro num den
  have hstep : (0 : ℚ) < 10 ^ k := by positivity
  have hden : 0 < den := Nat.mul_pos (Nat.pow_pos (by decide)) (Nat.pow_pos (by decide))
  have hratio : (num : ℚ) * 10 ^ k = b.size * den := by
    have hten := zpow_mul_pow_toNat (x := 10) (by norm_num) k
    have htwo := zpow_mul_pow_toNat (x := 2) (by norm_num) b.exponent
    simp only [num, den, size, Nat.pow_eq, Nat.cast_mul, Nat.cast_pow, Nat.cast_ofNat]
    calc (b.mantissa : ℚ) * 2 ^ b.exponent.toNat * 10 ^ (-k).toNat * 10 ^ k
        = b.mantissa * 2 ^ b.exponent.toNat * (10 ^ k * 10 ^ (-k).toNat) := by ring
      _ = b.mantissa * (2 ^ b.exponent * 2 ^ (-b.exponent).toNat) * 10 ^ k.toNat := by
          rw [hten, htwo]
      _ = _ := by ring
  have hdivide : (num : ℚ) = den * (num / den : Nat) + (num % den : Nat) := by
    exact_mod_cast (Nat.div_add_mod num den).symm
  have hrest : (num % den : Nat) ≤ (den : ℚ) := by exact_mod_cast (Nat.mod_lt num hden).le
  have hscale : ∀ a : Nat, 2 * |(a : ℚ) * den - num| ≤ den →
      2 * |(a : ℚ) * 10 ^ k - b.size| ≤ 10 ^ k := by
    intro a ha
    have hden' : (0 : ℚ) < den := by exact_mod_cast hden
    have hsame : ((a : ℚ) * 10 ^ k - b.size) * den = (a * den - num) * 10 ^ k := by
      rw [sub_mul, ← hratio]
      ring
    refine le_of_mul_le_mul_right ?_ hden'
    calc 2 * |(a : ℚ) * 10 ^ k - b.size| * den
        = 2 * |((a : ℚ) * 10 ^ k - b.size) * den| := by rw [abs_mul, abs_of_pos hden']; ring
      _ = 2 * |(a : ℚ) * den - num| * 10 ^ k := by rw [hsame, abs_mul, abs_of_pos hstep]; ring
      _ ≤ den * 10 ^ k := mul_le_mul_of_nonneg_right ha hstep.le
      _ = 10 ^ k * den := mul_comm ..
  rcases le_total (2 * ((num % den : Nat) : ℚ)) den with h | h
  · refine ⟨num / den, .inl rfl, hscale _ ?_⟩
    have hbelow : ((num / den : Nat) : ℚ) * den - num = -(num % den : Nat) := by
      rw [hdivide]
      ring
    rw [hbelow, abs_neg, abs_of_nonneg (by positivity)]
    exact h
  · refine ⟨num / den + 1, .inr rfl, hscale _ ?_⟩
    have habove : ((num / den + 1 : Nat) : ℚ) * den - num = den - (num % den : Nat) := by
      rw [hdivide]
      push_cast
      ring
    rw [habove, abs_of_nonneg (by linarith)]
    linarith

/-- One of the neighbours of seventeen digits is near enough. -/
theorem exists_withDigits? (hb : b.IsDouble) (hpos : 0 < b.mantissa) :
    ∃ d, b.withDigits? b.decimalSize 17 = some d := by
  obtain ⟨a, ha, hnear⟩ := exists_neighbour b (b.decimalSize - (17 : Nat))
  have hsize := pow_decimalSize_le hb hpos
  have hstep : (10 : ℚ) ^ (b.decimalSize - (17 : Nat)) * 10 ^ 16 = 10 ^ (b.decimalSize - 1) := by
    rw [← zpow_natCast, ← zpow_add₀ (by norm_num)]
    congr 1
    push_cast
    ring
  have hback : b.readsBack a (b.decimalSize - (17 : Nat)) = true := by
    refine (readsBack_iff ..).mpr (covers_of_near hb hpos ?_)
    linarith
  unfold withDigits?
  simp only
  rcases ha with rfl | rfl
  · rw [hback]
    split <;> simp_all
  · rw [hback]
    split <;> simp_all

theorem covers_of_withDigits? {size : Int} {count : Nat} {d : Decimal}
    (h : b.withDigits? size count = some d) : b.Covers d.value := by
  unfold withDigits? at h
  simp only at h
  split at h
  · rename_i hlow hhigh
    cases h
    simp only [Decimal.value]
    split
    · exact (readsBack_iff ..).mp hhigh
    · exact (readsBack_iff ..).mp hlow
  · rename_i hlow _
    cases h
    exact (readsBack_iff ..).mp hlow
  · rename_i _ hhigh
    cases h
    exact (readsBack_iff ..).mp hhigh
  · cases h

end Binary

theorem Decimal.value_stripped (fuel : Nat) (d : Decimal) : (d.stripped fuel).value = d.value := by
  induction fuel generalizing d with
  | zero => rfl
  | succ fuel ih =>
    unfold stripped
    split
    · rename_i hzero
      have hdigits : (d.digits : ℚ) = 10 * (d.digits / 10 : Nat) := by
        exact_mod_cast (by omega : d.digits = 10 * (d.digits / 10))
      rw [ih, value, value, zpow_add₀ (by norm_num), hdigits]
      simp only
      ring
    · rfl

namespace Binary

variable {b : Binary}

/-- The shortest decimal rounds to the double. -/
theorem covers_shortest (hb : b.IsDouble) (hpos : 0 < b.mantissa) : b.Covers b.shortest.value := by
  unfold shortest
  rw [if_neg hpos.ne']
  simp only
  split
  · rename_i d hd
    obtain ⟨count, -, hcount⟩ := List.exists_of_findSome?_eq_some hd
    rw [Decimal.value_stripped]
    exact covers_of_withDigits? hcount
  · rename_i hnone
    obtain ⟨d, hd⟩ := exists_withDigits? hb hpos
    have hseventeen := List.findSome?_eq_none_iff.mp hnone 17 (by decide)
    rw [hd] at hseventeen
    cases hseventeen

end Binary

end FormulaSheet.Number
