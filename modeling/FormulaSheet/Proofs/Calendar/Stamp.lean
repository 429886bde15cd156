import FormulaSheet.Proofs.Calendar.Digits
import FormulaSheet.Proofs.Text.Scanning

/-!
Moments are read back from the form in which files keep them: `ofText_stamp`. Each part of the form
is scanned up to what follows it.
-/

namespace FormulaSheet

open Calendar (padded)
open Scanning

namespace Instant

theorem require_true {condition : Bool} (h : condition = true) (fault : Fault)
    (cs : List Char) : require condition fault cs = .ok ((), cs) := by
  rw [require, if_pos h]
  rfl

theorem skipBlanks_cons {c : Char} (cs : List Char) (h : Text.isBlank c = false) :
    skipBlanks (c :: cs) = .ok ((), c :: cs) := by
  show Except.ok ((), (c :: cs).dropWhile Text.isBlank) = _
  rw [List.dropWhile_cons_of_neg (by simp [h])]

/-- Digits are read up to the first other character, or as many as are wanted at most. -/
theorem takeNumber_append {most : Nat} {ds rest : List Char} (hne : ds ≠ [])
    (hds : ∀ c ∈ ds, Text.isAsciiDigit c = true) (hsize : Number.ofDigits ds < Nat.pow 2 63)
    (hend : ds.length = most ∨
      ds.length ≤ most ∧ ∀ c ∈ rest.head?, Text.isAsciiDigit c = false) :
    takeNumber most (ds ++ rest) = .ok (Number.ofDigits ds, rest) := by
  have hlength : ds.length ≤ most := hend.elim Nat.le_of_eq And.left
  have hnone : (rest.take (most - ds.length)).takeWhile Text.isAsciiDigit = [] := by
    rcases hend with hlength | ⟨-, hrest⟩
    · simp [hlength]
    · cases rest with
      | nil => simp
      | cons c rest =>
        cases most - ds.length with
        | zero => rfl
        | succ n => simp [hrest c (by simp)]
  have hdigits : ((ds ++ rest).take most).takeWhile Text.isAsciiDigit = ds := by
    rw [List.take_append, List.take_of_length_le hlength, List.takeWhile_append_of_pos hds, hnone,
      List.append_nil]
  have hstart : (!(ds ++ rest).isEmpty) = true := by simp [hne]
  have hsome : (!ds.isEmpty) = true := by simp [hne]
  unfold takeNumber
  rw [bind_ok (get_ok _)]
  simp only [hdigits]
  rw [bind_ok (require_true hstart ..), bind_ok (require_true hsome ..),
    bind_ok (require_true (decide_eq_true hsize) ..)]
  show Except.ok (Number.ofDigits ds, (ds ++ rest).drop ds.length) = _
  rw [List.drop_left]

theorem takeNumber_padded {width most n : Nat} {rest : List Char} (hsize : n < Nat.pow 2 63)
    (hend : (padded width n).length = most ∨
      (padded width n).length ≤ most ∧ ∀ c ∈ rest.head?, Text.isAsciiDigit c = false) :
    takeNumber most (padded width n ++ rest) = .ok (n, rest) := by
  have h := takeNumber_append (Calendar.padded_ne_nil width n)
    (fun c hc => Calendar.isAsciiDigit_of_mem_padded hc)
    (by rwa [Calendar.ofDigits_padded]) hend
  rwa [Calendar.ofDigits_padded] at h

theorem skipBlanks_padded (width n : Nat) (rest : List Char) :
    skipBlanks (padded width n ++ rest) = .ok ((), padded width n ++ rest) := by
  obtain ⟨c, cs, h⟩ := List.exists_cons_of_ne_nil (Calendar.padded_ne_nil width n)
  have hc : Text.isAsciiDigit c = true :=
    Calendar.isAsciiDigit_of_mem_padded (h ▸ List.mem_cons_self)
  rw [h]
  exact skipBlanks_cons _ (Text.not_isBlank_of_isAsciiDigit hc)

/-- Two digits between limits. -/
theorem takeWithin_padded {least most n : Nat} (rest : List Char) (hleast : least ≤ n)
    (hmost : n ≤ most) (hsize : n < 100) :
    takeWithin least most (padded 2 n ++ rest) = .ok (n, rest) := by
  have hnumber : takeNumber 2 (padded 2 n ++ rest) = .ok (n, rest) :=
    takeNumber_padded (Nat.lt_trans hsize (by decide))
      (.inl (Calendar.length_padded (by decide) hsize))
  unfold takeWithin
  rw [bind_ok (skipBlanks_padded 2 n rest), bind_ok hnumber,
    bind_ok (require_true (by simp [hleast, hmost]) ..)]
  rfl

theorem takeMark_cons {isMark : Char → Bool} {c : Char} (cs : List Char) (h : isMark c = true) :
    takeMark isMark (c :: cs) = .ok ((), cs) := by
  unfold takeMark
  rw [bind_ok (get_ok _)]
  simp only
  rw [bind_ok (require_true h ..)]
  rfl

theorem takeDivider_cons {mark : Char} (cs : List Char) (h : Text.isBlank mark = false) :
    takeDivider mark (mark :: cs) = .ok ((), cs) := by
  unfold takeDivider
  rw [bind_ok (skipBlanks_cons cs h)]
  exact takeMark_cons cs (by simp)

/-- Years that have not four digits are written with a sign, and then read to their end. -/
theorem takeYear_yearText {year : Int} {rest : List Char} (hsize : year.natAbs < Nat.pow 2 63)
    (hrest : ∀ c ∈ rest.head?, Text.isAsciiDigit c = false) :
    takeYear (Calendar.yearText year ++ rest) = .ok (year, rest) := by
  have hsigned : takeNumber (padded 4 year.natAbs ++ rest).length (padded 4 year.natAbs ++ rest) =
      .ok (year.natAbs, rest) := takeNumber_padded hsize (.inr ⟨by simp, hrest⟩)
  unfold takeYear Calendar.yearText
  by_cases hneg : year < 0
  · rw [if_pos hneg, List.cons_append,
      bind_ok (skipBlanks_cons _ (by rfl)),
      bind_ok (get_ok _)]
    simp only
    rw [bind_ok (set_ok ..), bind_ok hsigned]
    have hyear : -(year.natAbs : Int) = year := by omega
    exact congrArg (fun n => Except.ok (n, rest)) hyear
  · rw [if_neg hneg]
    have hyear : (year.natAbs : Int) = year := by omega
    by_cases hlong : year > 9999
    · rw [if_pos hlong, List.cons_append,
        bind_ok (skipBlanks_cons _ (by rfl)),
        bind_ok (get_ok _)]
      simp only
      rw [bind_ok (set_ok ..), bind_ok hsigned]
      exact congrArg (fun n => Except.ok (n, rest)) hyear
    · have hfour : takeNumber 4 (padded 4 year.natAbs ++ rest) = .ok (year.natAbs, rest) :=
        takeNumber_padded hsize
          (.inl (Calendar.length_padded (by decide) (show year.natAbs < 10000 by omega)))
      rw [if_neg hlong, bind_ok (skipBlanks_padded ..), bind_ok (get_ok _)]
      -- a year that begins with a digit has no sign
      obtain ⟨c, cs, h⟩ := List.exists_cons_of_ne_nil (Calendar.padded_ne_nil 4 year.natAbs)
      have hc : Text.isAsciiDigit c = true :=
        Calendar.isAsciiDigit_of_mem_padded (h ▸ List.mem_cons_self)
      generalize hinput : padded 4 year.natAbs ++ rest = input at hfour ⊢
      rw [h, List.cons_append] at hinput
      split
      · rw [(List.cons.inj hinput).1] at hc
        cases hc
      · rw [(List.cons.inj hinput).1] at hc
        cases hc
      · rw [bind_ok hfour]
        exact congrArg (fun n => Except.ok (n, rest)) hyear

/-- A day as it is written is scanned up to the end of its last number. -/
theorem takeDay_iso {d : Date} (htold : d.isTold = true) (rest : List Char) :
    takeDay (Calendar.yearText d.year ++
        '-' :: (padded 2 d.month ++ '-' :: (padded 2 d.day ++ rest))) =
      .ok ((d.year, d.month, d.day), rest) := by
  obtain ⟨hmonth, hmonth', hday, hday'⟩ := d.isDay
  have hlast := Calendar.daysInMonth_le d.year d.month
  have hyear : -262143 ≤ d.year ∧ d.year ≤ 262142 := by simpa [Date.isTold] using htold
  have hlong : d.year.natAbs < Nat.pow 2 63 :=
    Nat.lt_of_le_of_lt (by omega : d.year.natAbs ≤ 262143) (by decide)
  have hrange : (decide (-Int.pow 2 31 ≤ d.year) && decide (d.year < Nat.pow 2 31)) = true := by
    have hpow : Int.pow 2 31 = 2147483648 ∧ ((Nat.pow 2 31 : Nat) : Int) = 2147483648 := by decide
    rw [hpow.1, hpow.2]
    simp
    omega
  unfold takeDay
  rw [bind_ok (takeYear_yearText hlong (by simp; rfl)), bind_ok (require_true hrange ..),
    bind_ok (takeDivider_cons _ (by rfl)),
    bind_ok (takeWithin_padded _ hmonth hmonth' (by omega)),
    bind_ok (takeDivider_cons _ (by rfl)),
    bind_ok (takeWithin_padded _ hday (by omega) (by omega))]
  rfl

theorem takeFraction_point {width n : Nat} {rest : List Char} (hwidth : 0 < width)
    (hmost : width ≤ 9) (hn : n < Nat.pow 10 width)
    (hrest : ∀ c ∈ rest.head?, Text.isAsciiDigit c = false) :
    takeFraction ('.' :: (padded width n ++ rest)) = .ok (n * Nat.pow 10 (9 - width), rest) := by
  have hlength := Calendar.length_padded hwidth hn
  have hsize : n < Nat.pow 2 63 :=
    Nat.lt_of_lt_of_le hn (Nat.le_trans (Nat.pow_le_pow_right (by decide) hmost) (by decide))
  have hdrop : rest.dropWhile Text.isAsciiDigit = rest := dropWhile_eq_self hrest
  have hread : (padded width n ++ rest).length - rest.length = width := by simp [hlength]
  unfold takeFraction
  rw [bind_ok (get_ok _)]
  simp only
  rw [bind_ok (set_ok ..), bind_ok (takeNumber_padded hsize (.inr ⟨by omega, hrest⟩)),
    bind_ok (get_ok _), hdrop, bind_ok (set_ok ..), hread]
  rfl

/-- A fraction as it is written is scanned up to what follows. -/
theorem takeFraction_fraction {nano : Nat} {rest : List Char} (hnano : nano < 1000000000)
    (hrest : ∀ c ∈ rest.head?, Text.isAsciiDigit c = false ∧ c ≠ '.') :
    takeFraction (fraction nano ++ rest) = .ok (nano, rest) := by
  have hdigit : ∀ c ∈ rest.head?, Text.isAsciiDigit c = false := fun c hc => (hrest c hc).1
  unfold fraction
  by_cases hzero : nano = 0
  · rw [if_pos hzero, List.nil_append, hzero]
    unfold takeFraction
    rw [bind_ok (get_ok _)]
    split
    · exact absurd rfl (hrest '.' (by simp)).2
    · rfl
  · rw [if_neg hzero]
    by_cases hmilli : nano % 1000000 = 0
    · rw [if_pos hmilli, List.cons_append, takeFraction_point (by decide) (by decide)
        (show nano / 1000000 < 1000 by omega) hdigit]
      have hwhole : nano / 1000000 * Nat.pow 10 (9 - 3) = nano :=
        Nat.div_mul_cancel (Nat.dvd_of_mod_eq_zero hmilli)
      rw [hwhole]
    · rw [if_neg hmilli]
      by_cases hmicro : nano % 1000 = 0
      · rw [if_pos hmicro, List.cons_append, takeFraction_point (by decide) (by decide)
          (show nano / 1000 < 1000000 by omega) hdigit]
        have hwhole : nano / 1000 * Nat.pow 10 (9 - 6) = nano :=
          Nat.div_mul_cancel (Nat.dvd_of_mod_eq_zero hmicro)
        rw [hwhole]
      · rw [if_neg hmicro, List.cons_append,
          takeFraction_point (by decide) (by decide) (by omega) hdigit]
        exact congrArg (fun n => Except.ok (n, rest)) (Nat.mul_one nano)

/-- A time of day as it is written is scanned up to what follows, a leap second included. -/
theorem takeClock_clock (t : Instant) {rest : List Char}
    (hrest : ∀ c ∈ rest.head?, Text.isAsciiDigit c = false ∧ c ≠ '.') :
    takeClock (t.clock ++ rest) = .ok ((t.second, t.nano), rest) := by
  obtain ⟨hsecond, hnano, hleap⟩ := t.isTime
  have hlate : t.nano / 1000000000 = 0 ∨ t.nano / 1000000000 = 1 ∧ t.second % 60 = 59 := by
    by_cases h : 1000000000 ≤ t.nano
    · exact .inr ⟨by omega, hleap h⟩
    · exact .inl (by omega)
  unfold takeClock clock
  simp only [List.append_assoc, List.cons_append]
  rw [bind_ok (takeWithin_padded _ (by omega) (by omega) (by omega)),
    bind_ok (takeDivider_cons _ (by rfl)),
    bind_ok (takeWithin_padded _ (by omega) (by omega) (by omega)),
    bind_ok (takeDivider_cons _ (by rfl)),
    bind_ok (takeWithin_padded _ (by omega) (by omega) (by omega)),
    bind_ok (takeFraction_fraction (Nat.mod_lt _ (by decide)) hrest)]
  have hboth : 3600 * (t.second / 3600) + 60 * (t.second / 60 % 60) +
        (t.second % 60 + t.nano / 1000000000) - (t.second % 60 + t.nano / 1000000000) / 60 =
        t.second ∧
      t.nano % 1000000000 +
        1000000000 * ((t.second % 60 + t.nano / 1000000000) / 60) = t.nano := by
    omega
  show Except.ok ((_, _), rest) = _
  rw [hboth.1, hboth.2]

theorem unzoned_self (t : Instant) (cs : List Char) :
    unzoned t.day t.second t.nano 0 cs = .ok (t, cs) := by
  obtain ⟨day, second, nano, htime, htold⟩ := t
  have hsecond : second < 86400 := htime.1
  have hmoved : (second : Int) - 60 * 0 = second := by omega
  unfold unzoned
  rw [bind_ok (require_true (by decide) ..)]
  simp only [hmoved, if_neg (by omega : ¬ (second : Int) < 0),
    if_neg (by omega : ¬ (86400 : Int) ≤ second)]
  rw [bind_ok (require_true htold ..), Int.toNat_natCast, ofParts?, dif_pos ⟨htime, htold⟩]
  rfl

/-- Moments are read back as they were written. -/
theorem ofText_stamp (t : Instant) : ofText t.stamp = .ok t := by
  have hlist : t.stamp.toList = Calendar.yearText t.day.year ++ '-' :: (padded 2 t.day.month ++
      '-' :: (padded 2 t.day.day ++ 'T' :: (t.clock ++ ['Z']))) := by
    simp [stamp, written, Date.iso, Calendar.dateText]
  have hday : Date.ofYmd? t.day.year t.day.month t.day.day = some t.day := dif_pos t.day.isDay
  have hzone : takeZone ['Z'] = .ok (0, []) := rfl
  have hend : skipBlanks [] = .ok ((), []) := rfl
  have hread : takeInstant t.stamp.toList = .ok (t, []) := by
    rw [hlist]
    unfold takeInstant
    rw [bind_ok (takeDay_iso t.isTold _)]
    simp only
    rw [bind_ok (takeMark_cons _ (by rfl)), bind_ok (takeClock_clock t (by simp; decide))]
    simp only
    rw [bind_ok (skipBlanks_cons _ (by rfl)), bind_ok hzone, bind_ok hend, bind_ok (get_ok _),
      bind_ok (require_true (by rfl) ..), hday,
      bind_ok (rfl : found _ (some t.day) [] = .ok (t.day, [])),
      bind_ok (require_true t.isTold ..)]
    exact unzoned_self t []
  rw [ofText, StateT.run', hread]
  rfl

end Instant

end FormulaSheet
