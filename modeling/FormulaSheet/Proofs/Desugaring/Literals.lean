import FormulaSheet.Proofs.Calendar.Digits
import FormulaSheet.Proofs.Desugaring.Words
import Mathlib.Data.List.Induction

/-!
Formulas read as pieces, characters of code and closed string literals. Masking puts numbered
placeholders in the places of the literals, and unmasking puts the literals back, written as scripts
have them.
-/

namespace FormulaSheet.Desugaring

/-- A character of code, or a string literal with what stands between its quotes. -/
inductive Piece where
  | code (c : Char)
  | literal (quote : Char) (body : List Char)
  deriving DecidableEq

namespace Piece

def text : Piece → List Char
  | .code c => [c]
  | .literal q body => q :: (body ++ [q])

/-- What stands between apostrophes, as it stands between double quotes. -/
def requoted : List Char → List Char
  | [] => []
  | '\\' :: d :: cs => if d = '\'' then '\'' :: requoted cs else '\\' :: d :: requoted cs
  | c :: cs => if c = '"' then '\\' :: '"' :: requoted cs else c :: requoted cs

/-- A piece as scripts have it: a literal between double quotes or backticks stays what it is. -/
def script : Piece → Piece
  | .code c => .code c
  | .literal q body => if q = '\'' then .literal '"' (requoted body) else .literal q body

/-- The character of a piece of code. -/
def char? : Piece → Option Char
  | .code c => some c
  | .literal .. => none

end Piece

/-- The text that pieces make up. -/
def texts (ps : List Piece) : List Char := ps.flatMap Piece.text

/-- Pieces with the literals left blank. -/
def outline (ps : List Piece) : List (Option Char) := ps.map Piece.char?

/-- The literals among pieces, in their order. -/
def literals (ps : List Piece) : List Piece := ps.filter fun p => p.char?.isNone

/-- The pieces of a text that stands in code, or in a literal that a quote opened and whose text so
far is given backwards. There are none if a literal stays open. -/
def piecesFrom? : Option (Char × List Char) → List Char → Option (List Piece)
  | none, [] => some []
  | none, c :: cs =>
    if isQuote c then piecesFrom? (some (c, [])) cs
    else (piecesFrom? none cs).map (Piece.code c :: ·)
  | some _, [] => none
  | some (q, done), [c] => if c = q then some [.literal q done.reverse] else none
  | some (q, done), c :: d :: cs =>
    if c = '\\' ∧ q ≠ '`' then piecesFrom? (some (q, d :: c :: done)) cs
    else if c = q then (piecesFrom? none (d :: cs)).map (Piece.literal q done.reverse :: ·)
    else piecesFrom? (some (q, c :: done)) (d :: cs)

/-- The pieces of a formula whose quotes are all closed. -/
def pieces? (cs : List Char) : Option (List Piece) := piecesFrom? none cs

/-! ## Bodies of literals -/

/-- What can stand between a quote and the next one that closes it: a backslash protects the
character after it, except between backticks. -/
inductive IsBody (q : Char) : List Char → Prop
  | nil : IsBody q []
  | escape (d : Char) {cs : List Char} : q ≠ '`' → IsBody q cs → IsBody q ('\\' :: d :: cs)
  | plain {c : Char} {cs : List Char} : c ≠ q → ¬ (c = '\\' ∧ q ≠ '`') → IsBody q cs →
    IsBody q (c :: cs)

def Piece.IsSound : Piece → Prop
  | .code c => isQuote c = false
  | .literal q body => isQuote q = true ∧ IsBody q body

section

variable {q c : Char} {body done rest : List Char} {ps : List Piece}

theorem ne_backslash_of_isQuote (h : isQuote q = true) : q ≠ '\\' := by
  rintro rfl
  exact absurd h (by decide)

theorem piecesFrom?_close (hq : isQuote q = true) :
    piecesFrom? (some (q, done)) (q :: rest) =
      (piecesFrom? none rest).map (.literal q done.reverse :: ·) := by
  cases rest with
  | nil => simp [piecesFrom?]
  | cons d rest =>
    conv_lhs => rw [piecesFrom?]
    rw [if_neg fun h => ne_backslash_of_isQuote hq h.1, if_pos rfl]

/-- A literal is read up to the quote that closes it. -/
theorem piecesFrom?_body (hq : isQuote q = true) (h : IsBody q body) (done rest : List Char) :
    piecesFrom? (some (q, done)) (body ++ q :: rest) =
      (piecesFrom? none rest).map (.literal q (done.reverse ++ body) :: ·) := by
  induction h generalizing done with
  | nil => rw [List.nil_append, piecesFrom?_close hq, List.append_nil]
  | @escape d cs hback _ ih =>
    rw [List.cons_append, List.cons_append, piecesFrom?, if_pos ⟨rfl, hback⟩, ih]
    simp
  | @plain c cs hne hback _ ih =>
    obtain ⟨d, more, hmore⟩ : ∃ d more, cs ++ q :: rest = d :: more := by
      cases cs with
      | nil => exact ⟨q, rest, rfl⟩
      | cons d cs => exact ⟨d, cs ++ q :: rest, rfl⟩
    have ih := ih (c :: done)
    rw [List.cons_append, hmore, piecesFrom?, if_neg hback, if_neg hne, ← hmore, ih]
    simp

/-- Reading undoes writing. -/
theorem pieces?_texts (h : ∀ p ∈ ps, p.IsSound) : pieces? (texts ps) = some ps := by
  induction ps with
  | nil => rfl
  | cons p ps ih =>
    obtain ⟨hp, hps⟩ := List.forall_mem_cons.mp h
    have hrest : piecesFrom? none (texts ps) = some ps := ih hps
    cases p with
    | code c =>
      have hc : ¬ isQuote c = true := by simpa [Piece.IsSound] using hp
      change piecesFrom? none (c :: texts ps) = _
      rw [piecesFrom?, if_neg hc, hrest]
      rfl
    | literal q body =>
      have htext : texts (.literal q body :: ps) = q :: (body ++ q :: texts ps) := by
        simp [texts, Piece.text]
      change piecesFrom? none (texts (.literal q body :: ps)) = _
      rw [htext, piecesFrom?, if_pos hp.1, piecesFrom?_body hp.1 hp.2, hrest]
      rfl

/-- What is read after an opening quote is a literal and what follows it. -/
theorem exists_of_piecesFrom?_literal {cs : List Char}
    (h : piecesFrom? (some (q, done)) cs = some ps) :
    ∃ body rest ps', IsBody q body ∧ cs = body ++ q :: rest ∧
      piecesFrom? none rest = some ps' ∧ ps = .literal q (done.reverse ++ body) :: ps' := by
  induction cs using List.twoStepInduction generalizing done with
  | nil => simp [piecesFrom?] at h
  | singleton c =>
    rw [piecesFrom?] at h
    split at h
    · rename_i hc
      cases h
      exact ⟨[], [], [], .nil, by rw [hc]; rfl, rfl, by simp⟩
    · cases h
  | cons_cons c d cs ih ih' =>
    rw [piecesFrom?] at h
    split at h
    · rename_i hback
      obtain ⟨body, rest, ps', hbody, rfl, hrest, rfl⟩ := ih h
      obtain ⟨rfl, hq⟩ := hback
      exact ⟨'\\' :: d :: body, rest, ps', .escape d hq hbody, rfl, hrest, by simp⟩
    · rename_i hback
      split at h
      · rename_i hc
        obtain ⟨ps', hps', rfl⟩ := Option.map_eq_some_iff.mp h
        exact ⟨[], d :: cs, ps', .nil, by rw [hc]; rfl, hps', by simp⟩
      · rename_i hne
        obtain ⟨body, rest, ps', hbody, hcs, hrest, rfl⟩ := ih' d h
        exact ⟨c :: body, rest, ps', .plain hne hback hbody, by rw [hcs]; rfl, hrest, by simp⟩

theorem pieces?_eq_some_iff {cs : List Char} :
    pieces? cs = some ps ↔ texts ps = cs ∧ ∀ p ∈ ps, p.IsSound := by
  constructor
  · intro h
    -- on the length, since a literal takes several characters at once
    induction hn : cs.length using Nat.strongRecOn generalizing cs ps with
    | _ n ih =>
      subst hn
      cases cs with
      | nil =>
        cases h
        exact ⟨rfl, by simp⟩
      | cons c cs =>
        rw [pieces?, piecesFrom?] at h
        split at h
        · rename_i hc
          obtain ⟨body, rest, ps', hbody, rfl, hrest, rfl⟩ := exists_of_piecesFrom?_literal h
          obtain ⟨htexts, hsound⟩ := ih rest.length (by simp; omega) hrest rfl
          refine ⟨?_, List.forall_mem_cons.mpr ⟨⟨hc, hbody⟩, hsound⟩⟩
          rw [← htexts]
          simp [texts, Piece.text]
        · rename_i hc
          obtain ⟨ps', hrest, rfl⟩ := Option.map_eq_some_iff.mp h
          obtain ⟨htexts, hsound⟩ := ih cs.length (by simp) hrest rfl
          have hcode : (Piece.code c).IsSound := by simpa [Piece.IsSound] using hc
          refine ⟨?_, List.forall_mem_cons.mpr ⟨hcode, hsound⟩⟩
          rw [← htexts]
          simp [texts, Piece.text]
  · rintro ⟨rfl, h⟩
    exact pieces?_texts h

end

/-! ## Masking -/

/-- A text whose blanks are filled with placeholders, numbered from `n` on. -/
def coded : Nat → List (Option Char) → List Char
  | _, [] => []
  | n, some c :: o => c :: coded n o
  | n, none :: o => placeholder n ++ coded (n + 1) o

namespace Piece

theorem requoted_escape (d : Char) (cs : List Char) :
    requoted ('\\' :: d :: cs) =
      if d = '\'' then '\'' :: requoted cs else '\\' :: d :: requoted cs := by
  rw [requoted]

theorem requoted_plain {c : Char} (h : c ≠ '\\') (cs : List Char) :
    requoted (c :: cs) = if c = '"' then '\\' :: '"' :: requoted cs else c :: requoted cs := by
  rw [requoted]
  rintro d cs' rfl
  exact absurd rfl h

/-- What the body of a literal becomes. -/
def scriptBody (q : Char) (body : List Char) : List Char :=
  if q = '\'' then requoted body else body

theorem script_literal {q : Char} (hq : isQuote q = true) (body : List Char) :
    (Piece.literal q body).script = .literal (quoteAfter q) (scriptBody q body) := by
  simp only [isQuote, Bool.or_eq_true, beq_iff_eq] at hq
  rcases hq with (rfl | rfl) | rfl <;> rfl

end Piece

section

variable {q c d : Char} {text rest body : List Char}

theorem maskFrom_close (hq : isQuote q = true) (m : Masked) :
    maskFrom (.literal q text) m (q :: rest) =
      maskFrom .code (m.close (quoteAfter q :: text)) rest := by
  cases rest with
  | nil => simp [maskFrom]
  | cons d rest =>
    conv_lhs => rw [maskFrom]
    rw [if_neg fun h => ne_backslash_of_isQuote hq h.1, if_pos rfl]

/-- In a literal, masking keeps what scripts have there, backwards. -/
theorem maskFrom_body (hq : isQuote q = true) (h : IsBody q body) (text rest : List Char)
    (m : Masked) :
    maskFrom (.literal q text) m (body ++ q :: rest) =
      maskFrom .code (m.close (quoteAfter q :: ((Piece.scriptBody q body).reverse ++ text)))
        rest := by
  induction h generalizing text with
  | nil =>
    have hnil : Piece.scriptBody q [] = [] := by
      unfold Piece.scriptBody
      split <;> rfl
    rw [List.nil_append, maskFrom_close hq, hnil]
    rfl
  | @escape d cs hback _ ih =>
    rw [List.cons_append, List.cons_append, maskFrom, if_pos ⟨rfl, hback⟩]
    by_cases hd : d = '\'' ∧ q = '\''
    · rw [if_pos hd, ih]
      obtain ⟨rfl, rfl⟩ := hd
      simp [Piece.scriptBody, Piece.requoted_escape]
    · rw [if_neg hd, ih]
      by_cases hquote : q = '\''
      · have hne : d ≠ '\'' := fun h => hd ⟨h, hquote⟩
        simp [Piece.scriptBody, hquote, Piece.requoted_escape, hne]
      · simp [Piece.scriptBody, hquote]
  | @plain c cs hne hback _ ih =>
    obtain ⟨d, more, hmore⟩ : ∃ d more, cs ++ q :: rest = d :: more := by
      cases cs with
      | nil => exact ⟨q, rest, rfl⟩
      | cons d cs => exact ⟨d, cs ++ q :: rest, rfl⟩
    rw [List.cons_append, hmore, maskFrom, if_neg hback, if_neg hne, ← hmore]
    by_cases hc : c = '"' ∧ q = '\''
    · rw [if_pos hc, ih]
      obtain ⟨rfl, rfl⟩ := hc
      simp [Piece.scriptBody, Piece.requoted_plain]
    · rw [if_neg hc, ih]
      by_cases hquote : q = '\''
      · have hslash : c ≠ '\\' := fun h => hback ⟨h, by rw [hquote]; decide⟩
        have hdouble : c ≠ '"' := fun h => hc ⟨h, hquote⟩
        simp [Piece.scriptBody, hquote, Piece.requoted_plain hslash, hdouble]
      · simp [Piece.scriptBody, hquote]

theorem maskFrom_texts {ps : List Piece} (h : ∀ p ∈ ps, p.IsSound) (m : Masked) :
    maskFrom .code m (texts ps) =
      { code := (coded m.literals.length (outline ps)).reverse ++ m.code
        literals := ((literals ps).map fun p => p.script.text).reverse ++ m.literals } := by
  induction ps generalizing m with
  | nil => simp [texts, outline, literals, coded, maskFrom]
  | cons p ps ih =>
    obtain ⟨hp, hps⟩ := List.forall_mem_cons.mp h
    cases p with
    | code c =>
      have hc : ¬ isQuote c = true := by simpa [Piece.IsSound] using hp
      change maskFrom .code m (c :: texts ps) = _
      rw [maskFrom, if_neg hc, ih hps]
      simp [outline, literals, Piece.char?, coded]
    | literal q body =>
      have htext : texts (.literal q body :: ps) = q :: (body ++ q :: texts ps) := by
        simp [texts, Piece.text]
      rw [htext, maskFrom, if_pos hp.1, maskFrom_body hp.1 hp.2, ih hps]
      simp [outline, literals, Piece.char?, coded, Masked.close, List.reverseAux_eq,
        Piece.script_literal hp.1, Piece.text]

/-- Masking finds the literals and leaves blanks for them. -/
theorem mask_texts {ps : List Piece} (h : ∀ p ∈ ps, p.IsSound) :
    mask (texts ps) = (coded 0 (outline ps), (literals ps).map fun p => p.script.text) := by
  rw [mask, maskFrom_texts h]
  simp

end

/-! ## Unmasking -/

/-- Pieces with the blanks of an outline filled in order, as far as there is something to put
there. -/
def placed : List (Option Char) → List Piece → List Piece
  | [], _ => []
  | some c :: o, ls => .code c :: placed o ls
  | none :: o, [] => placed o []
  | none :: o, l :: ls => l :: placed o ls

theorem looksAhead_unmaskRule (ls : Array (List Char)) : LooksAhead (unmaskRule ls) :=
  fun _ _ _ => rfl

theorem span_digits {ds : List Char} (h : ∀ d ∈ ds, Text.isAsciiDigit d = true) (rest : List Char) :
    (ds ++ '@' :: rest).span Text.isDigit = (ds, '@' :: rest) := by
  have hdigit : ∀ d ∈ ds, Text.isDigit d = true := fun d hd => Text.isDigit_of_isAsciiDigit (h d hd)
  rw [List.span_eq_takeWhile_dropWhile, List.takeWhile_append_of_pos hdigit,
    List.dropWhile_append_of_pos hdigit]
  have hat : Text.isDigit '@' = false := by decide
  simp [hat]

theorem isAsciiDigit_of_mem_toDigits {n : Nat} {d : Char} (h : d ∈ Nat.toDigits 10 n) :
    Text.isAsciiDigit d = true :=
  Text.isAsciiDigit_of_isDigit (Nat.isDigit_of_mem_toDigits (by decide) (by decide) h)

theorem placeholderDigits?_placeholder (n : Nat) (rest : List Char) :
    placeholderDigits? (placeholder n ++ rest) = some (Nat.toDigits 10 n) := by
  have hdigits : ∀ d ∈ Nat.toDigits 10 n, Text.isAsciiDigit d = true :=
    fun d hd => isAsciiDigit_of_mem_toDigits hd
  have hspan := span_digits hdigits ('@' :: '@' :: rest)
  have htext : placeholder n ++ rest =
      "@@@".toList ++ (Nat.toDigits 10 n ++ '@' :: '@' :: '@' :: rest) := by
    simp [placeholder]
  have hafter : after? "@@@".toList (placeholder n ++ rest) =
      some (Nat.toDigits 10 n ++ '@' :: '@' :: '@' :: rest) := by
    rw [htext]
    rfl
  simp only [placeholderDigits?, hafter, Option.bind_some, hspan]
  simp [Nat.toDigits_ne_nil, after?]

theorem placeholderNumber?_toDigits (n : Nat) :
    placeholderNumber? (Nat.toDigits 10 n) = some n := by
  have hall : (Nat.toDigits 10 n).all Text.isAsciiDigit = true :=
    List.all_eq_true.mpr fun d hd => isAsciiDigit_of_mem_toDigits hd
  rw [placeholderNumber?, if_pos hall]
  exact congrArg some Nat.ofDigitChars_ten_toDigits

/-- A placeholder with a literal is replaced by it. -/
theorem replaceAll_placeholder {ls : Array (List Char)} {n : Nat} {l : List Char}
    (h : ls[n]? = some l) (rest : List Char) :
    replaceAll (unmaskRule ls) (placeholder n ++ rest) = l ++ replaceAll (unmaskRule ls) rest := by
  have hrule : unmaskRule ls none (placeholder n ++ rest) =
      some (l, (Nat.toDigits 10 n).length + 5 + 1) := by
    simp [unmaskRule, placeholderDigits?_placeholder, placeholderNumber?_toDigits, h]
  obtain ⟨more, hmore⟩ : ∃ more, placeholder n ++ rest = '@' :: (more ++ rest) ∧
      more.length = (Nat.toDigits 10 n).length + 5 :=
    ⟨'@' :: '@' :: (Nat.toDigits 10 n ++ "@@@".toList), by simp [placeholder], by simp⟩
  rw [hmore.1] at hrule ⊢
  rw [(looksAhead_unmaskRule ls).replaceAll_of_some hrule, ← hmore.2, List.drop_left]

theorem replaceAll_coded {ls : List Piece} {o : List (Option Char)} {n : Nat}
    (hat : some '@' ∉ o) (hcount : n + o.count none ≤ ls.length) :
    replaceAll (unmaskRule (ls.map Piece.text).toArray) (coded n o) =
      texts (placed o (ls.drop n)) := by
  induction o generalizing n with
  | nil => rfl
  | cons x o ih =>
    obtain ⟨hx, hrest⟩ := not_or.mp (mt List.mem_cons.mpr hat)
    cases x with
    | some c =>
      have hne : '@' ≠ c := fun h => hx (congrArg some h)
      have hnone : unmaskRule (ls.map Piece.text).toArray none (c :: coded n o) = none := by
        simp [unmaskRule, placeholderDigits?, after?, hne]
      rw [coded, (looksAhead_unmaskRule _).replaceAll_of_none hnone,
        ih hrest (by simpa using hcount)]
      rfl
    | none =>
      rw [List.count_cons_self] at hcount
      have hlt : n < ls.length := by omega
      have hget : (ls.map Piece.text).toArray[n]? = some ls[n].text := by simp [hlt]
      rw [coded, replaceAll_placeholder hget, ih hrest (by omega), List.drop_eq_getElem_cons hlt]
      rfl

/-- Without literals there is nothing to fill. -/
theorem coded_eq_texts {o : List (Option Char)} (h : o.count none = 0) (n : Nat) :
    coded n o = texts (placed o []) := by
  induction o with
  | nil => rfl
  | cons x o ih =>
    cases x with
    | some c =>
      rw [coded, ih (by simpa using h)]
      rfl
    | none =>
      rw [List.count_cons_self] at h
      omega

/-- Unmasking puts literals into the blanks, in their order. -/
theorem unmask_coded {ls : List Piece} {o : List (Option Char)} (hat : some '@' ∉ o)
    (hcount : o.count none = ls.length) :
    unmask (ls.map Piece.text) (coded 0 o) = texts (placed o ls) := by
  have hreplaced := replaceAll_coded (n := 0) hat (by omega : 0 + o.count none ≤ ls.length)
  rw [List.drop_zero] at hreplaced
  unfold unmask
  split
  · rename_i hempty
    obtain rfl : ls = [] := by simpa using hempty
    exact coded_eq_texts hcount 0
  · exact hreplaced

end FormulaSheet.Desugaring
