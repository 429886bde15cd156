import FormulaSheet.Number.Numeral
import FormulaSheet.Proofs.Calendar.Digits
import FormulaSheet.Proofs.Text.Scanning
import Mathlib.Data.List.TakeDrop
import Mathlib.Data.List.TakeWhile

/-!
The grammar of decimal numerals, for any class of digits, and its two readers. One reads a whole
text and accepts the numerals in the digits `0` to `9` (`isSome_ofChars?_iff`); the other takes the
longest numeral in digits of any script off the front of a text (`leading?_eq_some_iff`).
-/

namespace FormulaSheet.Number

/-! ## The grammar -/

/-- A class of digits; the other characters of numerals are not in it. -/
structure IsDigitClass (digit : Char → Bool) : Prop where
  point : digit '.' = false
  plus : digit '+' = false
  minus : digit '-' = false
  lower : digit 'e' = false
  upper : digit 'E' = false

theorem isDigitClass_isAsciiDigit : IsDigitClass Text.isAsciiDigit :=
  ⟨rfl, rfl, rfl, rfl, rfl⟩

theorem isDigitClass_isDigit : IsDigitClass Text.isDigit :=
  ⟨by decide, by decide, by decide, by decide, by decide⟩

/-- One digit or more. -/
def IsDigits (digit : Char → Bool) (ds : List Char) : Prop :=
  ds ≠ [] ∧ ∀ c ∈ ds, digit c = true

/-- An optional sign. -/
inductive IsSign : List Char → Prop
  | none : IsSign []
  | plus : IsSign ['+']
  | minus : IsSign ['-']

/-- Digits with an optional point and further digits, or a point and digits. -/
inductive IsMantissa (digit : Char → Bool) : List Char → Prop
  | whole {ds : List Char} (hds : IsDigits digit ds) : IsMantissa digit ds
  | pointed {ds es : List Char} (hds : IsDigits digit ds) (hes : ∀ c ∈ es, digit c = true) :
      IsMantissa digit (ds ++ '.' :: es)
  | fraction {es : List Char} (hes : IsDigits digit es) : IsMantissa digit ('.' :: es)

/-- An optional exponent: `e` or `E`, a sign and digits. -/
inductive IsExponent (digit : Char → Bool) : List Char → Prop
  | none : IsExponent digit []
  | some {mark : Char} {s ds : List Char} (hmark : mark = 'e' ∨ mark = 'E') (hs : IsSign s)
      (hds : IsDigits digit ds) : IsExponent digit (mark :: (s ++ ds))

/-- A mantissa and an exponent. -/
inductive IsUnsigned (digit : Char → Bool) : List Char → Prop
  | intro {m e : List Char} (hm : IsMantissa digit m) (he : IsExponent digit e) :
      IsUnsigned digit (m ++ e)

/-- A decimal numeral. -/
inductive IsDecimal (digit : Char → Bool) : List Char → Prop
  | intro {s u : List Char} (hs : IsSign s) (hu : IsUnsigned digit u) : IsDecimal digit (s ++ u)

/-- The longest of some texts that another one begins with. -/
structure IsLongest (L : List Char → Prop) (cs p : List Char) : Prop where
  mem : L p
  front : p <+: cs
  longest : ∀ q, L q → q <+: cs → q.length ≤ p.length

theorem IsLongest.unique {L : List Char → Prop} {cs p q : List Char} (hp : IsLongest L cs p)
    (hq : IsLongest L cs q) : p = q :=
  (List.prefix_of_prefix_length_le hp.front hq.front (hq.longest p hp.mem hp.front)).eq_of_length
    (Nat.le_antisymm (hq.longest p hp.mem hp.front) (hp.longest q hq.mem hq.front))

variable {digit : Char → Bool} {cs ds es m e p q rest text : List Char}

/-! ## Signs -/

theorem isSign_signOf (cs : List Char) : IsSign (signOf cs).1 := by
  unfold signOf
  split
  · exact .minus
  · exact .plus
  · exact .none

theorem signOf_append_signOf (cs : List Char) : (signOf cs).1 ++ (signOf cs).2 = cs := by
  unfold signOf
  split <;> rfl

theorem IsSign.mem {s : List Char} (hs : IsSign s) {c : Char} (hc : c ∈ s) : c = '+' ∨ c = '-' := by
  cases hs with
  | none => cases hc
  | plus => exact .inl (List.mem_singleton.mp hc)
  | minus => exact .inr (List.mem_singleton.mp hc)

/-- A sign is all of it that is read as one. -/
theorem IsSign.signOf_append {s : List Char} (hs : IsSign s)
    (hcs : ∀ c ∈ cs.head?, c ≠ '+' ∧ c ≠ '-') : signOf (s ++ cs) = (s, cs) := by
  cases hs with
  | none =>
    rw [List.nil_append]
    unfold signOf
    split
    · exact absurd rfl (hcs '-' rfl).2
    · exact absurd rfl (hcs '+' rfl).1
    · rfl
  | plus => rfl
  | minus => rfl

/-! ## Mantissas -/

theorem IsMantissa.mem (hm : IsMantissa digit m) {c : Char} (hc : c ∈ m) :
    digit c = true ∨ c = '.' := by
  cases hm with
  | whole hds => exact .inl (hds.2 c hc)
  | pointed hds hes =>
    rcases List.mem_append.mp hc with hc | hc
    · exact .inl (hds.2 c hc)
    · rcases List.mem_cons.mp hc with hc | hc
      · exact .inr hc
      · exact .inl (hes c hc)
  | fraction hes =>
    rcases List.mem_cons.mp hc with hc | hc
    · exact .inr hc
    · exact .inl (hes.2 c hc)

theorem IsMantissa.ne_nil (hm : IsMantissa digit m) : m ≠ [] := by
  cases hm with
  | whole hds => exact hds.1
  | pointed => simp
  | fraction => simp

/-- A mantissa begins with no sign. -/
theorem IsMantissa.head_append (hdigit : IsDigitClass digit) (hm : IsMantissa digit m) :
    ∀ c ∈ (m ++ rest).head?, c ≠ '+' ∧ c ≠ '-' := by
  intro c hc
  obtain ⟨d, ds, rfl⟩ := List.exists_cons_of_ne_nil hm.ne_nil
  cases hc
  rcases hm.mem List.mem_cons_self with hc | rfl
  · refine ⟨?_, ?_⟩
    · rintro rfl
      cases hdigit.plus.symm.trans hc
    · rintro rfl
      cases hdigit.minus.symm.trans hc
  · decide

/-- Digits before a point are all there are in a row. -/
theorem takeWhile_of_pointed (hdigit : IsDigitClass digit) (hds : ∀ c ∈ ds, digit c = true)
    (h : ds ++ '.' :: es <+: cs) :
    cs.takeWhile digit = ds ∧ ∃ rest, cs.dropWhile digit = '.' :: rest ∧ es <+: rest := by
  obtain ⟨rest, rfl⟩ := h
  have hend : ∀ c ∈ ('.' :: (es ++ rest)).head?, digit c = false := by
    intro c hc
    cases hc
    exact hdigit.point
  rw [List.append_assoc, List.cons_append]
  exact ⟨Scanning.takeWhile_append hds hend, es ++ rest, Scanning.dropWhile_append hds hend,
    List.prefix_append es rest⟩

/-- A mantissa at the front of a text lies in its first digits, or goes on with a point and the
digits behind that. -/
theorem IsMantissa.at_front (hdigit : IsDigitClass digit) (hq : IsMantissa digit q)
    (h : q <+: cs) :
    cs.takeWhile digit ≠ [] ∧ q.length ≤ (cs.takeWhile digit).length ∨
      ∃ rest, cs.dropWhile digit = '.' :: rest ∧
        (cs.takeWhile digit ≠ [] ∨ rest.takeWhile digit ≠ []) ∧
        q.length ≤ (cs.takeWhile digit).length + 1 + (rest.takeWhile digit).length := by
  cases hq with
  | whole hds =>
    have hle := Scanning.length_le_takeWhile hds.2 h
    have hpos := List.length_pos_iff.mpr hds.1
    exact .inl ⟨List.length_pos_iff.mp (by omega), hle⟩
  | @pointed ds es hds hes =>
    obtain ⟨hwhole, rest, hrest, hprefix⟩ := takeWhile_of_pointed hdigit hds.2 h
    have hle := Scanning.length_le_takeWhile hes hprefix
    refine .inr ⟨rest, hrest, .inl (hwhole ▸ hds.1), ?_⟩
    rw [hwhole, List.length_append, List.length_cons]
    omega
  | @fraction es hes =>
    have hnone : ∀ c ∈ ([] : List Char), digit c = true := fun _ hc => nomatch hc
    obtain ⟨hwhole, rest, hrest, hprefix⟩ := takeWhile_of_pointed hdigit hnone h
    have hle := Scanning.length_le_takeWhile hes.2 hprefix
    have hpos := List.length_pos_iff.mpr hes.1
    refine .inr ⟨rest, hrest, .inr (List.length_pos_iff.mp (by omega)), ?_⟩
    rw [hwhole, List.length_cons, List.length_nil]
    omega

theorem mantissaOf?_eq_some (hdigit : IsDigitClass digit)
    (h : mantissaOf? digit cs = some (m, rest)) :
    m ++ rest = cs ∧ IsLongest (IsMantissa digit) cs m := by
  have hcs : cs.takeWhile digit ++ cs.dropWhile digit = cs := List.takeWhile_append_dropWhile
  have hwhole : ∀ c ∈ cs.takeWhile digit, digit c = true := fun _ => List.mem_takeWhile_imp
  -- it is enough to see that it is a mantissa as long as any can be
  suffices hshape : IsMantissa digit m ∧ m ++ rest = cs ∧
      ∀ q, IsMantissa digit q → q <+: cs → q.length ≤ m.length from
    ⟨hshape.2.1, hshape.1, ⟨rest, hshape.2.1⟩, hshape.2.2⟩
  unfold mantissaOf? at h
  split at h
  · rename_i d ds rest' htake hdrop
    cases h
    rw [htake, hdrop] at hcs
    rw [htake] at hwhole
    refine ⟨.pointed ⟨List.cons_ne_nil _ _, hwhole⟩ (fun _ => List.mem_takeWhile_imp), ?_,
      fun q hq hfront => ?_⟩
    · simpa using hcs
    · have hlength : (d :: ds ++ '.' :: rest'.takeWhile digit).length =
          (d :: ds).length + 1 + (rest'.takeWhile digit).length := by
        rw [List.length_append, List.length_cons (a := '.')]
        omega
      rcases hq.at_front hdigit hfront with ⟨-, hle⟩ | ⟨rest, hrest, -, hle⟩
      · rw [htake] at hle
        omega
      · cases hdrop.symm.trans hrest
        rw [htake] at hle
        omega
  · rename_i d ds htake hnot
    cases h
    rw [htake] at hcs hwhole
    refine ⟨.whole ⟨List.cons_ne_nil _ _, hwhole⟩, hcs, fun q hq hfront => ?_⟩
    rcases hq.at_front hdigit hfront with ⟨-, hle⟩ | ⟨rest, hrest, -⟩
    · rwa [htake] at hle
    · exact absurd hrest (hnot rest)
  · rename_i rest' htake hdrop
    split at h
    · cases h
    · rename_i hsome
      cases h
      rw [htake, hdrop] at hcs
      refine ⟨.fraction ⟨by simpa using hsome, fun _ => List.mem_takeWhile_imp⟩, ?_,
        fun q hq hfront => ?_⟩
      · rw [List.cons_append, List.takeWhile_append_dropWhile]
        exact hcs
      · rcases hq.at_front hdigit hfront with ⟨hne, -⟩ | ⟨rest, hrest, -, hle⟩
        · exact absurd htake hne
        · cases hdrop.symm.trans hrest
          rw [htake, List.length_nil] at hle
          rw [List.length_cons]
          omega
  · cases h

theorem mantissaOf?_eq_none (hdigit : IsDigitClass digit) (h : mantissaOf? digit cs = none)
    (hm : IsMantissa digit m) : ¬ m <+: cs := by
  intro hfront
  unfold mantissaOf? at h
  split at h
  · cases h
  · cases h
  · rename_i rest' htake hdrop
    split at h
    · rename_i hnone
      rcases hm.at_front hdigit hfront with ⟨hne, -⟩ | ⟨rest, hrest, hne | hne, -⟩
      · exact hne htake
      · exact hne htake
      · cases hdrop.symm.trans hrest
        exact hne (List.isEmpty_iff.mp hnone)
    · cases h
  · rename_i htake hnot
    rcases hm.at_front hdigit hfront with ⟨hne, -⟩ | ⟨rest, hrest, -⟩
    · exact hne htake
    · exact hnot rest hrest

/-! ## Exponents -/

theorem isExponent_exponentOf (digit : Char → Bool) (cs : List Char) :
    IsExponent digit (exponentOf digit cs) := by
  cases cs with
  | nil => exact .none
  | cons c cs =>
    simp only [exponentOf]
    split
    · rename_i hmark
      split
      · exact .none
      · rename_i hsome
        exact .some hmark (isSign_signOf cs)
          ⟨by simpa using hsome, fun _ => List.mem_takeWhile_imp⟩
    · exact .none

theorem IsExponent.mem (he : IsExponent digit e) {c : Char} (hc : c ∈ e) :
    digit c = true ∨ c ∈ ['+', '-', 'e', 'E'] := by
  cases he with
  | none => cases hc
  | some hmark hs hds =>
    rcases List.mem_cons.mp hc with rfl | hc
    · rcases hmark with rfl | rfl <;> simp
    rcases List.mem_append.mp hc with hc | hc
    · rcases hs.mem hc with rfl | rfl <;> simp
    · exact .inl (hds.2 c hc)

theorem exponentOf_isPrefix (digit : Char → Bool) (cs : List Char) :
    exponentOf digit cs <+: cs := by
  cases cs with
  | nil => exact List.prefix_refl _
  | cons c cs =>
    simp only [exponentOf]
    split
    · split
      · exact List.nil_prefix
      · refine (List.prefix_cons_inj c).mpr ?_
        conv =>
          rhs
          rw [← signOf_append_signOf cs]
        exact (List.prefix_append_right_inj _).mpr (List.takeWhile_prefix digit)
    · exact List.nil_prefix

theorem isLongest_exponentOf (hdigit : IsDigitClass digit) (cs : List Char) :
    IsLongest (IsExponent digit) cs (exponentOf digit cs) := by
  refine ⟨isExponent_exponentOf digit cs, exponentOf_isPrefix digit cs, fun q hq hfront => ?_⟩
  cases hq with
  | none => exact Nat.zero_le _
  | @some mark s ds hmark hs hds =>
    obtain ⟨rest, rfl⟩ := hfront
    have hhead : ∀ c ∈ (ds ++ rest).head?, c ≠ '+' ∧ c ≠ '-' :=
      (IsMantissa.whole hds).head_append hdigit
    have hread : exponentOf digit (mark :: (s ++ (ds ++ rest))) =
        mark :: (s ++ (ds ++ rest).takeWhile digit) := by
      have hle := Scanning.length_le_takeWhile hds.2 (List.prefix_append ds rest)
      have hpos := List.length_pos_iff.mpr hds.1
      have hsome : ((ds ++ rest).takeWhile digit).isEmpty = false :=
        List.isEmpty_eq_false_iff.mpr (List.length_pos_iff.mp (by omega))
      simp only [exponentOf, if_pos hmark, hs.signOf_append hhead, hsome]
      rfl
    have hle := Scanning.length_le_takeWhile hds.2 (List.prefix_append ds rest)
    rw [List.cons_append, List.append_assoc, hread]
    simp only [List.length_cons, List.length_append] at hle ⊢
    omega

/-! ## Numerals -/

/-- The characters of decimal numerals. -/
theorem IsDecimal.mem (hp : IsDecimal digit p) {c : Char} (hc : c ∈ p) :
    digit c = true ∨ c ∈ ['.', '+', '-', 'e', 'E'] := by
  obtain ⟨hs, ⟨hm, he⟩⟩ := hp
  rcases List.mem_append.mp hc with hc | hc
  · rcases hs.mem hc with rfl | rfl <;> simp
  rcases List.mem_append.mp hc with hc | hc
  · rcases hm.mem hc with hdigit | rfl
    · exact .inl hdigit
    · simp
  · exact (he.mem hc).imp_right (List.mem_cons_of_mem '.')

/-- An exponent begins with none of the characters of a mantissa. -/
theorem IsExponent.head (hdigit : IsDigitClass digit) (he : IsExponent digit e) {c : Char}
    (hc : c ∈ e.head?) : digit c = false ∧ c ≠ '.' := by
  cases he with
  | none => cases hc
  | some hmark _ _ =>
    cases hc
    rcases hmark with rfl | rfl
    · exact ⟨hdigit.lower, by decide⟩
    · exact ⟨hdigit.upper, by decide⟩

/-- Before an exponent stands the longest mantissa. -/
theorem IsLongest.eq_of_exponent (hdigit : IsDigitClass digit)
    (hm : IsLongest (IsMantissa digit) cs m) (hq : IsMantissa digit q) (he : IsExponent digit e)
    (hne : e ≠ []) (hfront : q ++ e <+: cs) : q = m := by
  have hqfront : q <+: cs := (List.prefix_append q e).trans hfront
  obtain ⟨more, rfl⟩ := List.prefix_of_prefix_length_le hqfront hm.front (hm.longest q hq hqfront)
  cases more with
  | nil => rw [List.append_nil]
  | cons c more =>
    obtain ⟨d, ds, rfl⟩ := List.exists_cons_of_ne_nil hne
    have hd := he.head hdigit (c := d) rfl
    -- what follows the shorter one is in the longer one
    obtain ⟨rest, hrest⟩ := hfront
    obtain ⟨rest', hrest'⟩ := hm.front
    rw [← hrest, List.append_assoc, List.append_assoc] at hrest'
    obtain ⟨rfl, -⟩ := List.cons.inj (List.append_cancel_left hrest')
    have hc := hm.mem.mem (c := c) (List.mem_append_right q List.mem_cons_self)
    rcases hc with hc | hc
    · cases hd.1.symm.trans hc
    · exact absurd hc hd.2

theorem IsLongest.unsigned (hdigit : IsDigitClass digit)
    (hm : IsLongest (IsMantissa digit) (m ++ rest) m) :
    IsLongest (IsUnsigned digit) (m ++ rest) (m ++ exponentOf digit rest) := by
  have he := isLongest_exponentOf hdigit rest
  refine ⟨.intro hm.mem he.mem, (List.prefix_append_right_inj m).mpr he.front,
    fun q hq hfront => ?_⟩
  cases hq with
  | @intro m' e' hm' he' =>
    by_cases hne : e' = []
    · subst hne
      rw [List.append_nil] at hfront ⊢
      have hle := hm.longest m' hm' hfront
      rw [List.length_append]
      omega
    · obtain rfl := hm.eq_of_exponent hdigit hm' he' hne hfront
      have hle := he.longest e' he' ((List.prefix_append_right_inj m').mp hfront)
      rw [List.length_append, List.length_append]
      omega

theorem IsUnsigned.head_append (hdigit : IsDigitClass digit) {u : List Char}
    (hu : IsUnsigned digit u) : ∀ c ∈ (u ++ rest).head?, c ≠ '+' ∧ c ≠ '-' := by
  cases hu with
  | intro hm he =>
    rw [List.append_assoc]
    exact hm.head_append hdigit

theorem leading?_eq (digit : Char → Bool) (text : List Char) : leading? digit text =
    (mantissaOf? digit (signOf text).2).map fun (m, rest) =>
      (signOf text).1 ++ (m ++ exponentOf digit rest) := rfl

theorem leading?_eq_some (hdigit : IsDigitClass digit) (h : leading? digit text = some p) :
    IsLongest (IsDecimal digit) text p := by
  have hsplit := signOf_append_signOf text
  rw [leading?_eq] at h
  obtain ⟨⟨m, rest⟩, hmantissa, rfl⟩ := Option.map_eq_some_iff.mp h
  obtain ⟨hcs, hm⟩ := mantissaOf?_eq_some hdigit hmantissa
  rw [← hcs] at hm
  have hu := hm.unsigned hdigit
  rw [hcs] at hu
  refine ⟨.intro (isSign_signOf text) hu.mem, ?_, fun q hq hfront => ?_⟩
  · conv =>
      rhs
      rw [← hsplit]
    exact (List.prefix_append_right_inj _).mpr hu.front
  · cases hq with
    | @intro s u hs hu' =>
      obtain ⟨more, rfl⟩ := hfront
      rw [List.append_assoc, hs.signOf_append (hu'.head_append hdigit)] at hu ⊢
      have hle := hu.longest u hu' (List.prefix_append u more)
      simp only [List.length_append] at hle ⊢
      omega

theorem leading?_eq_none (hdigit : IsDigitClass digit) (h : leading? digit text = none)
    (hp : IsDecimal digit p) : ¬ p <+: text := by
  rw [leading?_eq] at h
  have hmantissa := Option.map_eq_none_iff.mp h
  cases hp with
  | @intro s u hs hu =>
    rintro ⟨more, rfl⟩
    rw [List.append_assoc, hs.signOf_append (hu.head_append hdigit)] at hmantissa
    cases hu with
    | @intro m e hm he =>
      refine mantissaOf?_eq_none hdigit hmantissa hm ?_
      rw [List.append_assoc]
      exact List.prefix_append m _

/-- The longest numeral at the front of a text is found. -/
theorem leading?_eq_some_iff (hdigit : IsDigitClass digit) :
    leading? digit text = some p ↔ IsLongest (IsDecimal digit) text p := by
  refine ⟨leading?_eq_some hdigit, fun h => ?_⟩
  cases hfound : leading? digit text with
  | none => exact absurd h.front (leading?_eq_none hdigit hfound h.mem)
  | some q => rw [(leading?_eq_some hdigit hfound).unique h]

/-! ## Whole texts -/

theorem splitSign_snd (cs : List Char) : (splitSign cs).2 = (signOf cs).2 := by
  unfold splitSign signOf
  split <;> rfl

theorem exponentOf?_cons {c : Char} (hmark : c = 'e' ∨ c = 'E') :
    (Numeral.exponentOf? (c :: cs)).isSome = true ↔
      IsDigits Text.isAsciiDigit (signOf cs).2 := by
  rw [← splitSign_snd, Numeral.exponentOf?, if_pos hmark]
  simp only [IsDigits, ← List.all_eq_true, ne_eq, ← List.isEmpty_iff]
  split
  · rename_i hbad
    refine iff_of_false (by simp) fun h => hbad.elim h.1 fun hnot => ?_
    simp [h.2] at hnot
  · rename_i hgood
    refine iff_of_true ?_ ⟨fun h => hgood (.inl h), ?_⟩
    · split <;> rfl
    · simpa using fun h => hgood (.inr h)

theorem isSome_exponentOf?_iff : (Numeral.exponentOf? cs).isSome = true ↔
    IsExponent Text.isAsciiDigit cs := by
  constructor
  · intro h
    cases cs with
    | nil => exact .none
    | cons c cs =>
      by_cases hmark : c = 'e' ∨ c = 'E'
      · rw [← signOf_append_signOf cs]
        exact .some hmark (isSign_signOf cs) ((exponentOf?_cons hmark).mp h)
      · rw [Numeral.exponentOf?, if_neg hmark] at h
        cases h
  · intro h
    cases h with
    | none => rfl
    | @some mark s ds hmark hs hds =>
      have hhead : ∀ c ∈ (ds ++ []).head?, c ≠ '+' ∧ c ≠ '-' :=
        (IsMantissa.whole hds).head_append isDigitClass_isAsciiDigit
      rw [List.append_nil] at hhead
      rw [exponentOf?_cons hmark, hs.signOf_append hhead]
      exact hds

theorem isSome_ofChars? (text : List Char) : (Numeral.ofChars? text).isSome = true ↔
    ∃ m rest, mantissaOf? Text.isAsciiDigit (signOf text).2 = some (m, rest) ∧
      (Numeral.exponentOf? rest).isSome = true := by
  simp only [Numeral.ofChars?, mantissaOf?, List.span_eq_takeWhile_dropWhile, splitSign_snd]
  generalize (signOf text).2.takeWhile Text.isAsciiDigit = whole
  generalize (signOf text).2.dropWhile Text.isAsciiDigit = rest
  -- both readers ask for digits before or behind the point
  split
  · rename_i tail
    cases whole with
    | nil =>
      by_cases hplaces : (tail.takeWhile Text.isAsciiDigit).isEmpty = true
      · simp [hplaces]
      · simp [hplaces]
    | cons d ds => simp
  · cases whole with
    | nil => simp
    | cons d ds => simp

theorem isSome_ofChars?_iff : (Numeral.ofChars? text).isSome = true ↔
    IsDecimal Text.isAsciiDigit text := by
  rw [isSome_ofChars?]
  constructor
  · rintro ⟨m, rest, hmantissa, hexponent⟩
    obtain ⟨hcs, hm⟩ := mantissaOf?_eq_some isDigitClass_isAsciiDigit hmantissa
    rw [← signOf_append_signOf text, ← hcs]
    exact .intro (isSign_signOf text) (.intro hm.mem (isSome_exponentOf?_iff.mp hexponent))
  · intro h
    have hlongest : IsLongest (IsDecimal Text.isAsciiDigit) text text :=
      ⟨h, List.prefix_refl text, fun q _ hq => hq.length_le⟩
    have hread := (leading?_eq_some_iff isDigitClass_isAsciiDigit).mpr hlongest
    rw [leading?_eq] at hread
    obtain ⟨⟨m, rest⟩, hmantissa, heq⟩ := Option.map_eq_some_iff.mp hread
    obtain ⟨hcs, -⟩ := mantissaOf?_eq_some isDigitClass_isAsciiDigit hmantissa
    -- nothing is left behind the exponent
    have hwhole : exponentOf Text.isAsciiDigit rest = rest := by
      have hsplit := signOf_append_signOf text
      rw [← hcs] at hsplit
      exact List.append_cancel_left (List.append_cancel_left (heq.trans hsplit.symm))
    refine ⟨m, rest, hmantissa, isSome_exponentOf?_iff.mpr ?_⟩
    rw [← hwhole]
    exact isExponent_exponentOf ..

instance : DecidablePred (IsDecimal Text.isAsciiDigit) := fun _ =>
  decidable_of_iff _ isSome_ofChars?_iff

end FormulaSheet.Number
