import FormulaSheet.Calendar.Pattern
import FormulaSheet.Proofs.Calendar.Digits
import FormulaSheet.Proofs.Text.Trimming
import Mathlib.Data.List.Perm.Basic

/-!
Dates are recognised without ambiguity. The parts of a pattern take pieces off the front of a text;
where two patterns fit one text, the digits before the next mark either are of the same field in
both, or are too many for one of them. `agree` looks for this along two patterns, and all pairs of
the known ones pass (`agree_patterns`). So the order in which they are tried does not matter, and a
date is read back as it is shown (`recognition_unambiguous`).
-/

namespace FormulaSheet

namespace Calendar

/-- What digits in a pattern are for. -/
inductive Field where
  | year
  | month
  | day
  deriving DecidableEq

namespace Part

/-- The field of a part; a mark has none. -/
def field? : Part → Option Field
  | .year _ => some .year
  | .month _ => some .month
  | .day _ => some .day
  | .mark _ => none

/-- The fewest characters that a part takes. -/
def least : Part → Nat
  | .year n => n
  | .month fixed | .day fixed => if fixed then 2 else 1
  | .mark _ => 1

/-- The most characters that a part takes. -/
def most : Part → Nat
  | .year n => n
  | .month _ | .day _ => 2
  | .mark _ => 1

/-- Marks are no digits, and a field has at least one. -/
def isProper : Part → Bool
  | .mark m => !Text.isDigit m
  | part => 0 < part.least

/-- The texts that a part stands for. -/
inductive Takes : Part → List Char → Prop
  | mark (m : Char) : Takes (.mark m) [m]
  | digits {part : Part} {ds : List Char} (hfield : part.field? ≠ none)
      (hleast : part.least ≤ ds.length) (hmost : ds.length ≤ part.most)
      (hdigits : ∀ c ∈ ds, Text.isDigit c = true) : Takes part ds

end Part

/-- The fields found so far together with the text of one more. -/
def Found.record (found : Found) (ds : List Char) : Option Field → Found
  | some .year => { found with year := some ds }
  | some .month => { found with month := some ds }
  | some .day => { found with day := some ds }
  | none => found

/-- A text is what the parts of a pattern stand for, one after the other. -/
inductive Fits : List Part → Found → List Char → Found → Prop
  | done (found : Found) : Fits [] found [] found
  | step {part : Part} {parts : List Part} {found result : Found} {ds rest : List Char}
      (htakes : part.Takes ds) (hrest : Fits parts (found.record ds part.field?) rest result) :
      Fits (part :: parts) found (ds ++ rest) result

variable {a b part : Part} {as bs parts : List Part} {found result result' : Found}
  {n : Nat} {cs ds es rest rest' : List Char}

/-! ## What fits a pattern -/

theorem takeDigits?_eq_some (h : takeDigits? n cs = some (ds, rest)) :
    cs = ds ++ rest ∧ ds.length = n ∧ ∀ c ∈ ds, Text.isDigit c = true := by
  simp only [takeDigits?] at h
  split at h
  · rename_i hall
    cases h
    exact ⟨(List.take_append_drop n cs).symm, hall.1, List.all_eq_true.mp hall.2⟩
  · cases h

theorem takeShort?_eq_some {fixed : Bool} (h : takeShort? fixed cs = some (ds, rest)) :
    cs = ds ++ rest ∧ (if fixed then 2 else 1) ≤ ds.length ∧ ds.length ≤ 2 ∧
      ∀ c ∈ ds, Text.isDigit c = true := by
  unfold takeShort? at h
  split at h
  · rename_i hfound
    cases h
    obtain ⟨hcs, hlength, hdigits⟩ := takeDigits?_eq_some hfound
    refine ⟨hcs, ?_, Nat.le_of_eq hlength, hdigits⟩
    split <;> omega
  · cases fixed with
    | true => cases h
    | false =>
      obtain ⟨hcs, hlength, hdigits⟩ := takeDigits?_eq_some h
      exact ⟨hcs, Nat.le_of_eq hlength.symm, by omega, hdigits⟩

theorem fits_of_fit? (h : fit? parts found cs = some result) : Fits parts found cs result := by
  induction parts generalizing found cs with
  | nil =>
    cases cs with
    | nil =>
      cases h
      exact .done _
    | cons => cases h
  | cons part parts ih =>
    cases part with
    | year n =>
      simp only [fit?] at h
      split at h
      · rename_i ds rest hfound
        obtain ⟨rfl, hlength, hdigits⟩ := takeDigits?_eq_some hfound
        exact .step (.digits (by simp [Part.field?]) (Nat.le_of_eq hlength.symm)
          (Nat.le_of_eq hlength) hdigits) (ih h)
      · cases h
    | month fixed | day fixed =>
      simp only [fit?] at h
      split at h
      · rename_i ds rest hfound
        obtain ⟨rfl, hleast, hmost, hdigits⟩ := takeShort?_eq_some hfound
        exact .step (.digits (by simp [Part.field?]) hleast hmost hdigits) (ih h)
      · cases h
    | mark m =>
      cases cs with
      | nil => cases h
      | cons c cs =>
        simp only [fit?] at h
        split at h
        · rename_i hc
          subst hc
          exact .step (.mark c) (ih h)
        · cases h

/-! ## Two patterns for one text -/

/-- No field follows, so that digits in front are all there are in a row. -/
def closes (parts : List Part) : Bool := parts.head?.all fun part => part.field?.isNone

/-- Two patterns never fit one text, or find the same fields in it. -/
def agree : List Part → List Part → Bool
  | a :: as, b :: bs =>
    match a.field?, b.field? with
    | none, none => a != b || agree as bs
    | some f, some g =>
      (closes as && a.most < b.least) || (closes bs && b.most < a.least) ||
        (f == g && (closes as && closes bs || a.most ≤ b.least && b.most ≤ a.least) && agree as bs)
    | _, _ => true
  | _, _ => true

theorem Part.Takes.ne_nil (h : part.Takes ds) (hproper : part.isProper = true) : ds ≠ [] := by
  rintro rfl
  cases h with
  | digits hfield hleast _ _ =>
    cases part with
    | mark m => exact hfield rfl
    | year n => simp_all [Part.isProper, Part.least]
    | month fixed => simp_all [Part.isProper]
    | day fixed => simp_all [Part.isProper]

theorem Part.Takes.mark_eq (h : part.Takes ds) (hfield : part.field? = none) :
    ∃ m, part = .mark m ∧ ds = [m] := by
  cases h with
  | mark m => exact ⟨m, rfl, rfl⟩
  | digits hsome => exact absurd hfield hsome

theorem Part.Takes.of_field (h : part.Takes ds) (hfield : part.field? ≠ none) :
    part.least ≤ ds.length ∧ ds.length ≤ part.most ∧ ∀ c ∈ ds, Text.isDigit c = true := by
  cases h with
  | mark m => exact absurd rfl hfield
  | digits _ hleast hmost hdigits => exact ⟨hleast, hmost, hdigits⟩

/-- What follows a last field, or one before a mark, begins with no digit. -/
theorem Fits.head_not_digit (h : Fits parts found rest result) (hcloses : closes parts = true)
    (hproper : ∀ part ∈ parts, part.isProper = true) :
    ∀ c ∈ rest.head?, Text.isDigit c = false := by
  intro c hc
  cases h with
  | done => cases hc
  | @step part parts _ _ ds rest htakes _ =>
    have hmark : part.field? = none := by simpa [closes] using hcloses
    obtain ⟨m, rfl, rfl⟩ := htakes.mark_eq hmark
    cases hc
    simpa [Part.isProper] using hproper _ List.mem_cons_self

/-- Of two runs of digits at the front of a text, one that no digit follows is the longer. -/
theorem length_le_of_closed (hcs : ds ++ rest = es ++ rest')
    (hds : ∀ c ∈ ds, Text.isDigit c = true) (hes : ∀ c ∈ es, Text.isDigit c = true)
    (hrest : ∀ c ∈ rest.head?, Text.isDigit c = false) : es.length ≤ ds.length := by
  have hle := Scanning.length_le_takeWhile hes (List.prefix_append es rest')
  rwa [← hcs, Scanning.takeWhile_append hds hrest] at hle

/-- No field takes more digits than there are in front of a mark. -/
theorem not_lt_least (hcs : ds ++ rest = es ++ rest') (ha : a.Takes ds) (hb : b.Takes es)
    (hafield : a.field? ≠ none) (hbfield : b.field? ≠ none)
    (hrest : ∀ c ∈ rest.head?, Text.isDigit c = false) : ¬ a.most < b.least := by
  obtain ⟨-, hmost, hds⟩ := ha.of_field hafield
  obtain ⟨hleast, -, hes⟩ := hb.of_field hbfield
  have hle := length_le_of_closed hcs hds hes hrest
  omega

/-- Two fields at the front of a text take the same of it if no digit follows either, or if they
take so many digits and no other number. -/
theorem eq_of_fields (hcs : ds ++ rest = es ++ rest') (ha : a.Takes ds) (hb : b.Takes es)
    (hafield : a.field? ≠ none) (hbfield : b.field? ≠ none)
    (hsame : (∀ c ∈ rest.head?, Text.isDigit c = false) ∧
        (∀ c ∈ rest'.head?, Text.isDigit c = false) ∨
      a.most ≤ b.least ∧ b.most ≤ a.least) : ds = es ∧ rest = rest' := by
  obtain ⟨haleast, hamost, hds⟩ := ha.of_field hafield
  obtain ⟨hbleast, hbmost, hes⟩ := hb.of_field hbfield
  have hlength : ds.length = es.length := by
    rcases hsame with ⟨hrest, hrest'⟩ | ⟨hab, hba⟩
    · have hle := length_le_of_closed hcs hds hes hrest
      have hge := length_le_of_closed hcs.symm hes hds hrest'
      omega
    · omega
  exact List.append_inj hcs hlength

/-- A mark is not at the front of the text of a field. -/
theorem ne_of_mark_of_field (ha : a.Takes ds) (hb : b.Takes es) (hamark : a.field? = none)
    (hbfield : b.field? ≠ none) (haproper : a.isProper = true) (hbproper : b.isProper = true) :
    ds ++ rest ≠ es ++ rest' := by
  obtain ⟨m, rfl, rfl⟩ := ha.mark_eq hamark
  obtain ⟨c, es, rfl⟩ := List.exists_cons_of_ne_nil (hb.ne_nil hbproper)
  obtain ⟨-, -, hdigits⟩ := hb.of_field hbfield
  intro hcs
  have hm : Text.isDigit m = true := by
    rw [(List.cons.inj hcs).1]
    exact hdigits c List.mem_cons_self
  simp [Part.isProper, hm] at haproper

theorem Fits.unique (ha : Fits as found cs result) (hb : Fits bs found cs result')
    (hagree : agree as bs = true) (has : ∀ part ∈ as, part.isProper = true)
    (hbs : ∀ part ∈ bs, part.isProper = true) : result = result' := by
  induction ha generalizing bs with
  | done found =>
    generalize hcs : ([] : List Char) = cs at hb
    cases hb with
    | done => rfl
    | step htakes _ =>
      have hnil := (List.append_eq_nil_iff.mp hcs.symm).1
      exact absurd hnil (htakes.ne_nil (hbs _ List.mem_cons_self))
  | @step a as found result ds rest htakes hrest ih =>
    generalize hcs : ds ++ rest = cs at hb
    cases hb with
    | done =>
      have hnil := (List.append_eq_nil_iff.mp hcs).1
      exact absurd hnil (htakes.ne_nil (has _ List.mem_cons_self))
    | @step b bs _ _ es rest' htakes' hrest' =>
      have hproper := List.forall_mem_cons.mp has
      have hproper' := List.forall_mem_cons.mp hbs
      have hclosed : closes as = true → ∀ c ∈ rest.head?, Text.isDigit c = false :=
        fun h => hrest.head_not_digit h hproper.2
      have hclosed' : closes bs = true → ∀ c ∈ rest'.head?, Text.isDigit c = false :=
        fun h => hrest'.head_not_digit h hproper'.2
      cases hafield : a.field? with
      | none =>
        cases hbfield : b.field? with
        | none =>
          obtain ⟨m, rfl, rfl⟩ := htakes.mark_eq hafield
          obtain ⟨m', rfl, rfl⟩ := htakes'.mark_eq hbfield
          obtain ⟨rfl, rfl⟩ := List.cons.inj hcs
          have hagree' : agree as bs = true := by simpa [agree, Part.field?] using hagree
          exact ih hrest' hagree' hproper.2 hproper'.2
        | some g =>
          exact absurd hcs
            (ne_of_mark_of_field htakes htakes' hafield (by simp [hbfield]) hproper.1 hproper'.1)
      | some f =>
        cases hbfield : b.field? with
        | none =>
          exact absurd hcs.symm
            (ne_of_mark_of_field htakes' htakes hbfield (by simp [hafield]) hproper'.1 hproper.1)
        | some g =>
          have ha : a.field? ≠ none := by simp [hafield]
          have hb : b.field? ≠ none := by simp [hbfield]
          simp only [agree, hafield, hbfield, Bool.or_eq_true, Bool.and_eq_true,
            decide_eq_true_eq, beq_iff_eq] at hagree
          rcases hagree with (⟨hends, hlong⟩ | ⟨hends, hlong⟩) | ⟨⟨rfl, hsame⟩, hagree'⟩
          · exact absurd hlong (not_lt_least hcs htakes htakes' ha hb (hclosed hends))
          · exact absurd hlong (not_lt_least hcs.symm htakes' htakes hb ha (hclosed' hends))
          · obtain ⟨rfl, rfl⟩ := eq_of_fields hcs htakes htakes' ha hb
              (hsame.imp_left fun h => ⟨hclosed h.1, hclosed' h.2⟩)
            rw [hafield] at hrest ih
            rw [hbfield] at hrest'
            exact ih hrest' hagree' hproper.2 hproper'.2

/-! ## The known patterns -/

/-- The parts of the known patterns. -/
def knownParts : List (List Part) := patterns.map fun p => partsOf p.toList

theorem agree_patterns : ∀ as ∈ knownParts, ∀ bs ∈ knownParts, agree as bs = true := by
  decide +kernel

theorem isProper_patterns : ∀ as ∈ knownParts, ∀ part ∈ as, part.isProper = true := by
  decide +kernel

/-- Two known patterns that give a day for one text give the same day. -/
theorem readWith?_unique {today d e : Date} (has : as ∈ knownParts) (hbs : bs ∈ knownParts)
    (hd : readWith? today cs as = some d) (he : readWith? today cs bs = some e) : d = e := by
  unfold readWith? at hd he
  split at hd
  · cases hd
  · rename_i found hfound
    split at he
    · cases he
    · rename_i found' hfound'
      have hsame : found = found' := (fits_of_fit? hfound).unique (fits_of_fit? hfound')
        (agree_patterns as has bs hbs) (isProper_patterns as has) (isProper_patterns bs hbs)
      subst hsame
      exact Option.some.inj (hd.symm.trans he)

/-- Where all that is found is the same, it does not matter what is searched first. -/
theorem findSome?_eq_of_perm {α β : Type} {f : α → Option β} {l l' : List α} (hperm : l.Perm l')
    (hsame : ∀ x ∈ l, ∀ y ∈ l, ∀ b c, f x = some b → f y = some c → b = c) :
    l.findSome? f = l'.findSome? f := by
  cases hfound : l'.findSome? f with
  | none =>
    rw [List.findSome?_eq_none_iff] at hfound ⊢
    exact fun x hx => hfound x (hperm.mem_iff.mp hx)
  | some b =>
    obtain ⟨x, hx, hb⟩ := List.exists_of_findSome?_eq_some hfound
    have hx := hperm.mem_iff.mpr hx
    cases hfirst : l.findSome? f with
    | none =>
      rw [List.findSome?_eq_none_iff.mp hfirst x hx] at hb
      cases hb
    | some c =>
      obtain ⟨y, hy, hc⟩ := List.exists_of_findSome?_eq_some hfirst
      rw [hsame y hy x hx c b hc hb]

/-! ## Dates as they are shown -/

theorem takeDigits?_append (hlength : ds.length = n) (hds : ∀ c ∈ ds, Text.isDigit c = true)
    (rest : List Char) : takeDigits? n (ds ++ rest) = some (ds, rest) := by
  subst hlength
  simp only [takeDigits?, List.take_left, List.drop_left]
  exact if_pos ⟨trivial, List.all_eq_true.mpr hds⟩

theorem takeShort?_append {fixed : Bool} (hlength : ds.length = 2)
    (hds : ∀ c ∈ ds, Text.isDigit c = true) (rest : List Char) :
    takeShort? fixed (ds ++ rest) = some (ds, rest) := by
  rw [takeShort?, takeDigits?_append hlength hds]

theorem isDigit_of_mem_padded {width : Nat} {c : Char} (h : c ∈ padded width n) :
    Text.isDigit c = true :=
  Text.isDigit_of_isAsciiDigit (isAsciiDigit_of_mem_padded h)

theorem fieldValue?_padded (width n : Nat) : fieldValue? (padded width n) = some n := by
  have hall : (padded width n).all Text.isAsciiDigit = true :=
    List.all_eq_true.mpr fun c hc => isAsciiDigit_of_mem_padded hc
  rw [fieldValue?, if_pos hall, ofDigits_padded]

theorem toList_display {d : Date} (hfirst : 0 ≤ d.year) (hlast : d.year ≤ 9999) :
    d.display.toList = padded 4 d.year.natAbs ++
      '/' :: (padded 2 d.month ++ '/' :: (padded 2 d.day ++ [])) := by
  have hyear : yearText d.year = padded 4 d.year.natAbs := by
    rw [yearText, if_neg (by omega), if_neg (by omega)]
  simp [Date.display, dateText, hyear]

theorem readWith?_display (today : Date) {d : Date} (hfirst : 0 ≤ d.year) (hlast : d.year ≤ 9999) :
    readWith? today d.display.toList
      [.year 4, .mark '/', .month true, .mark '/', .day true] = some d := by
  obtain ⟨-, hmonth, -, hday⟩ := d.isDay
  have hdays := daysInMonth_le d.year d.month
  have hyear : (padded 4 d.year.natAbs).length = 4 :=
    length_padded (by decide) (show d.year.natAbs < 10000 by omega)
  have hmonth' : (padded 2 d.month).length = 2 :=
    length_padded (by decide) (show d.month < 100 by omega)
  have hday' : (padded 2 d.day).length = 2 :=
    length_padded (by decide) (show d.day < 100 by omega)
  have hfit : fit? [.year 4, .mark '/', .month true, .mark '/', .day true] {} d.display.toList =
      some ⟨some (padded 4 d.year.natAbs), some (padded 2 d.month), some (padded 2 d.day)⟩ := by
    rw [toList_display hfirst hlast, fit?,
      takeDigits?_append hyear fun c hc => isDigit_of_mem_padded hc]
    simp only
    rw [fit?, if_pos rfl, fit?, takeShort?_append hmonth' fun c hc => isDigit_of_mem_padded hc]
    simp only
    rw [fit?, if_pos rfl, fit?, takeShort?_append hday' fun c hc => isDigit_of_mem_padded hc]
    rfl
  have hsame : (d.year.natAbs : Int) = d.year := by omega
  simp only [readWith?, hfit, yearOf?, Option.bind_some, fieldValue?_padded, Option.map_some,
    hyear, if_neg (by decide : ¬ 4 = 2), hsame]
  exact dif_pos d.isDay

theorem not_isBlank_of_mem_display {d : Date} (hfirst : 0 ≤ d.year) (hlast : d.year ≤ 9999)
    {c : Char} (hc : c ∈ d.display.toList) : Text.isBlank c = false := by
  rw [toList_display hfirst hlast, List.append_nil] at hc
  simp only [List.mem_append, List.mem_cons] at hc
  rcases hc with hc | rfl | hc | rfl | hc
  · exact Text.not_isBlank_of_isAsciiDigit (isAsciiDigit_of_mem_padded hc)
  · rfl
  · exact Text.not_isBlank_of_isAsciiDigit (isAsciiDigit_of_mem_padded hc)
  · rfl
  · exact Text.not_isBlank_of_isAsciiDigit (isAsciiDigit_of_mem_padded hc)

theorem ofText?_eq (today : Date) (text : String) :
    Date.ofText? today text = knownParts.findSome? (readWith? today (Number.trimmed text.toList)) :=
  rfl

/-- The shown form of a date fits the first of the known patterns. -/
theorem ofText?_display (today : Date) {d : Date} (hfirst : 0 ≤ d.year) (hlast : d.year ≤ 9999)
    {before after : List Char} (hbefore : ∀ c ∈ before, Text.isBlank c = true)
    (hafter : ∀ c ∈ after, Text.isBlank c = true) :
    Date.ofText? today (String.ofList (before ++ d.display.toList ++ after)) = some d := by
  have htrimmed := Number.trimmed_blanks hbefore hafter
    fun c hc => not_isBlank_of_mem_display hfirst hlast hc
  have hparts : knownParts =
      [.year 4, .mark '/', .month true, .mark '/', .day true] :: knownParts.tail := by decide
  rw [ofText?_eq, String.toList_ofList, htrimmed, hparts,
    List.findSome?_cons_of_isSome (by rw [readWith?_display today hfirst hlast]; rfl),
    readWith?_display today hfirst hlast]

/-- The known patterns that give a day for a text all give the same one, and so they can be tried
in any order. A date of four digits for the year is read back from its shown form, whatever blanks
stand around it. -/
theorem recognition_unambiguous (today : Date) :
    (∀ text : String, ∀ p ∈ patterns, ∀ q ∈ patterns, ∀ d e : Date,
      readWith? today (Number.trimmed text.toList) (partsOf p.toList) = some d →
      readWith? today (Number.trimmed text.toList) (partsOf q.toList) = some e → d = e) ∧
    (∀ (text : String) (ps : List String), ps.Perm patterns →
      (ps.map fun p => partsOf p.toList).findSome?
        (readWith? today (Number.trimmed text.toList)) = Date.ofText? today text) ∧
    ∀ (d : Date) (before after : List Char), 0 ≤ d.year → d.year ≤ 9999 →
      (∀ c ∈ before, Text.isBlank c = true) → (∀ c ∈ after, Text.isBlank c = true) →
      Date.ofText? today (String.ofList (before ++ d.display.toList ++ after)) = some d := by
  refine ⟨?_, ?_, ?_⟩
  · intro text p hp q hq d e hd he
    exact readWith?_unique (List.mem_map_of_mem hp) (List.mem_map_of_mem hq) hd he
  · intro text ps hperm
    have hparts : (ps.map fun p => partsOf p.toList).Perm knownParts := hperm.map _
    rw [ofText?_eq]
    refine findSome?_eq_of_perm hparts fun as has bs hbs d e hd he => ?_
    exact readWith?_unique (hparts.mem_iff.mp has) (hparts.mem_iff.mp hbs) hd he
  · intro d before after hfirst hlast hbefore hafter
    exact ofText?_display today hfirst hlast hbefore hafter

/-- A leap day of the year zero, which fits two patterns. -/
theorem recognition_unambiguous_leap_day :
    let today : Date := ⟨2025, 6, 1, by decide⟩
    let d : Date := ⟨0, 2, 29, by decide⟩
    let text := String.ofList ([' '] ++ d.display.toList ++ ['\t', '\n'])
    (∀ e, readWith? today (Number.trimmed text.toList) (partsOf "yyyy/M/d".toList) = some e →
        d = e) ∧
      (patterns.reverse.map fun p => partsOf p.toList).findSome?
        (readWith? today (Number.trimmed text.toList)) = some d ∧
      Date.ofText? today text = some d := by
  intro today d text
  obtain ⟨hunique, horder, hread⟩ := recognition_unambiguous today
  have htext : Date.ofText? today text = some d :=
    hread d [' '] ['\t', '\n'] (by decide) (by decide) (List.all_eq_true.mp rfl)
      (List.all_eq_true.mp rfl)
  have hfirst : readWith? today (Number.trimmed text.toList) (partsOf "yyyy/MM/dd".toList) =
      some d := by
    decide +kernel
  exact ⟨fun e he => hunique text _ (by simp [patterns]) _ (by simp [patterns]) d e hfirst he,
    (horder text _ (List.reverse_perm _)).trans htext, htext⟩

end Calendar

end FormulaSheet
