import FormulaSheet.Json.Reader
import FormulaSheet.Json.Text
import FormulaSheet.Proofs.Text.Scanning

/-!
What was written in JSON notation is read as it was: every escaped character, every text
(`text_quoted`), and every object of texts whose keys differ (`fieldsOf_object`).
-/

namespace FormulaSheet.Json

open Scanning

namespace Reader

theorem drop_ok (n : Nat) (cs : List Char) : drop n cs = .ok ((), cs.drop n) := rfl

/-! ## Texts -/

/-- The four digits of a control character stand for it. -/
theorem codeEscape_control {n : Nat} (hn : n < 32) (cs : List Char) :
    codeEscape ('0' :: '0' :: hexDigit (n / 16) :: hexDigit (n % 16) :: cs) =
      .ok (Char.ofNat n, cs) := by
  have hvalue : ∀ n < 32,
      Number.wholeInBase? 16 ['0', '0', hexDigit (n / 16), hexDigit (n % 16)] 0 = some n := by
    decide
  have hhex : hexEscape ('0' :: '0' :: hexDigit (n / 16) :: hexDigit (n % 16) :: cs) =
      .ok (n, cs) := by
    unfold hexEscape
    rw [bind_ok (get_ok _)]
    simp only
    rw [bind_ok (drop_ok ..), hvalue n hn]
    rfl
  have hsmall : isTrailing n = false ∧ isLeading n = false := by
    simp [isTrailing, isLeading]
    omega
  unfold codeEscape
  rw [bind_ok hhex, hsmall.1, hsmall.2]
  rfl

/-- A letter after a backslash stands for its character. -/
theorem escape_letter {code : Reader Char} {c d : Char} (hc : c ≠ 'u') (hd : ofLetter? c = some d)
    (cs : List Char) : escape code (c :: cs) = .ok (d, cs) := by
  unfold escape
  rw [bind_ok (get_ok _)]
  simp only
  rw [bind_ok (drop_ok ..), if_neg hc, hd]
  rfl

theorem escape_code {code : Reader Char} (cs : List Char) : escape code ('u' :: cs) = code cs := by
  unfold escape
  rw [bind_ok (get_ok _)]
  simp only
  rw [bind_ok (drop_ok ..), if_pos trivial]
  rfl

section

variable {control : Reader String} {code : Reader Char}

theorem textWith_close (fuel : Nat) (before cs : List Char) :
    textWith code control (fuel + 1) before ('"' :: cs) =
      .ok (String.ofList before.reverse, cs) := by
  unfold textWith
  rw [bind_ok (get_ok _)]
  rfl

theorem textWith_escape {fuel : Nat} {before cs rest : List Char} {c : Char}
    (h : escape code cs = .ok (c, rest)) :
    textWith code control (fuel + 1) before ('\\' :: cs) =
      textWith code control fuel (c :: before) rest := by
  rw [textWith, bind_ok (get_ok _)]
  simp only
  rw [bind_ok (drop_ok ..)]
  exact bind_ok h

theorem textWith_plain {fuel : Nat} {before cs : List Char} {c : Char} (hquote : c ≠ '"')
    (hslash : c ≠ '\\') (hcontrol : ¬ c.toNat < 32) :
    textWith code control (fuel + 1) before (c :: cs) =
      textWith code control fuel (c :: before) cs := by
  rw [textWith, bind_ok (get_ok _)]
  generalize hcs : c :: cs = input
  split
  · cases hcs
  · exact absurd (List.cons.inj hcs).1 hquote
  · exact absurd (List.cons.inj hcs).1 hslash
  · obtain ⟨rfl, rfl⟩ := List.cons.inj hcs
    rw [if_neg hcontrol, bind_ok (drop_ok ..)]
    rfl

end

/-- Every character is read back from its escaped form. -/
theorem textWith_escaped {control : Reader String} (fuel : Nat) (before : List Char) (c : Char)
    (cs : List Char) :
    textWith codeEscape control (fuel + 1) before (escaped c ++ cs) =
      textWith codeEscape control fuel (c :: before) cs := by
  unfold escaped
  split
  · exact textWith_escape (escape_letter (by decide) rfl cs)
  · exact textWith_escape (escape_letter (by decide) rfl cs)
  · exact textWith_escape (escape_letter (by decide) rfl cs)
  · exact textWith_escape (escape_letter (by decide) rfl cs)
  · exact textWith_escape (escape_letter (by decide) rfl cs)
  · rename_i hquote hslash _ _ _
    have hc : Char.ofNat c.toNat = c := Char.ofNat_toNat c
    by_cases hb : c.toNat = 8
    · rw [if_pos hb]
      rw [hb] at hc
      exact hc ▸ textWith_escape (escape_letter (by decide) rfl cs)
    · rw [if_neg hb]
      by_cases hf : c.toNat = 12
      · rw [if_pos hf]
        rw [hf] at hc
        exact hc ▸ textWith_escape (escape_letter (by decide) rfl cs)
      · rw [if_neg hf]
        by_cases hcontrol : c.toNat < 32
        · rw [if_pos hcontrol]
          have hread := codeEscape_control hcontrol cs
          rw [hc] at hread
          exact textWith_escape ((escape_code _).trans hread)
        · rw [if_neg hcontrol]
          exact textWith_plain hquote hslash hcontrol

theorem textWith_escapedAll {control : Reader String} {fuel : Nat} {before s rest : List Char}
    (hfuel : s.length < fuel) :
    textWith codeEscape control fuel before (s.flatMap escaped ++ '"' :: rest) =
      .ok (String.ofList (before.reverse ++ s), rest) := by
  induction s generalizing fuel before with
  | nil =>
    obtain ⟨fuel, rfl⟩ := Nat.exists_eq_add_one_of_ne_zero (Nat.ne_zero_of_lt hfuel)
    simpa using textWith_close fuel before rest
  | cons c s ih =>
    obtain ⟨fuel, rfl⟩ := Nat.exists_eq_add_one_of_ne_zero (Nat.ne_zero_of_lt hfuel)
    rw [List.flatMap_cons, List.append_assoc, textWith_escaped,
      ih (by simpa using hfuel)]
    simp

theorem length_escaped_pos (c : Char) : 0 < (escaped c).length := by
  unfold escaped
  repeat' split
  all_goals simp

theorem length_le_length_escaped (s : List Char) : s.length ≤ (s.flatMap escaped).length := by
  induction s with
  | nil => simp
  | cons c s ih =>
    have hone := length_escaped_pos c
    simp only [List.flatMap_cons, List.length_append, List.length_cons]
    omega

/-- A text is read up to its closing quote. -/
theorem text_quoted (s : String) (rest : List Char) :
    text (s.toList.flatMap escaped ++ '"' :: rest) = .ok (s, rest) := by
  have hlength := length_le_length_escaped s.toList
  unfold text
  rw [bind_ok (get_ok _),
    textWith_escapedAll (by simp only [List.length_append, List.length_cons]; omega)]
  simp

/-! ## Objects -/

theorem peek_cons {c : Char} (cs : List Char) (h : isBlank c = false) :
    peek (c :: cs) = .ok (some c, c :: cs) := by
  have hdrop : (c :: cs).dropWhile isBlank = c :: cs :=
    List.dropWhile_cons_of_neg (by simp [h])
  show Except.ok (((c :: cs).dropWhile isBlank).head?, (c :: cs).dropWhile isBlank) = _
  rw [hdrop]
  rfl

theorem fieldText_quoted {s : Schema} {field value : String}
    (hfine : s.complaint? field value = none) (rest : List Char) :
    fieldText s field (' ' :: '"' :: (value.toList.flatMap escaped ++ '"' :: rest)) =
      .ok (value, rest) := by
  have hpeek : peek (' ' :: '"' :: (value.toList.flatMap escaped ++ '"' :: rest)) =
      .ok (some '"', '"' :: (value.toList.flatMap escaped ++ '"' :: rest)) := rfl
  unfold fieldText
  rw [bind_ok hpeek]
  simp only
  rw [bind_ok (drop_ok ..), List.drop_one, List.tail_cons, bind_ok (text_quoted ..), hfine]
  rfl

/-- What follows the opening quote of a member: its key, its text, and more. -/
def memberRest (f : String × String) (rest : List Char) : List Char :=
  f.1.toList.flatMap escaped ++
    '"' :: ':' :: ' ' :: '"' :: (f.2.toList.flatMap escaped ++ '"' :: rest)

/-- A member whose key is known and new is found, once it is clear that there is one. -/
theorem members_member {s : Schema} {fuel : Nat} {found : List (String × String)} {isFirst : Bool}
    {f : String × String} {cs rest : List Char}
    (hanother : another '\x7d' .endInObject .expectedCommaOrBrace isFirst cs =
      .ok (true, '"' :: memberRest f rest))
    (hnew : (found.any fun g => g.1 == f.1) = false) (hknown : s.fields.contains f.1 = true)
    (hfine : s.complaint? f.1 f.2 = none) :
    members s (fuel + 1) found isFirst cs = members s fuel (found ++ [f]) false rest := by
  rw [members, bind_ok hanother]
  simp only [Bool.not_true, Bool.false_eq_true, if_false]
  rw [bind_ok (peek_cons _ (by rfl))]
  simp only
  rw [bind_ok (drop_ok ..), List.drop_one, List.tail_cons, memberRest, bind_ok (text_quoted ..)]
  simp only [hnew, Bool.false_eq_true, if_false]
  rw [bind_ok (peek_cons _ (by rfl))]
  simp only
  rw [bind_ok (drop_ok ..), if_pos hknown, List.drop_one, List.tail_cons,
    bind_ok (fieldText_quoted hfine rest)]

/-- A member on a line of its own. -/
def memberLine (f : String × String) : List Char :=
  "\n  ".toList ++ quoted f.1 ++ ": ".toList ++ quoted f.2

theorem memberLine_append (f : String × String) (rest : List Char) :
    memberLine f ++ rest = '\n' :: ' ' :: ' ' :: '"' :: memberRest f rest := by
  simp [memberLine, quoted, memberRest]

/-- The members after those found are found in their order, up to the closing brace. -/
theorem members_lines {s : Schema} {fuel : Nat} {found fs : List (String × String)}
    (rest : List Char) (hfuel : fs.length < fuel) (hkeys : ((found ++ fs).map Prod.fst).Nodup)
    (hknown : ∀ f ∈ fs, s.fields.contains f.1 = true)
    (hfine : ∀ f ∈ fs, s.complaint? f.1 f.2 = none) :
    members s fuel found false
        (fs.flatMap (fun f => ',' :: memberLine f) ++ '\n' :: '\x7d' :: rest) =
      .ok (found ++ fs, '\x7d' :: rest) := by
  induction fs generalizing fuel found with
  | nil =>
    obtain ⟨fuel, rfl⟩ := Nat.exists_eq_add_one_of_ne_zero (Nat.ne_zero_of_lt hfuel)
    have hend : another '\x7d' .endInObject .expectedCommaOrBrace false ('\n' :: '\x7d' :: rest) =
      .ok (false, '\x7d' :: rest) := rfl
    rw [List.flatMap_nil, List.nil_append, members, bind_ok hend, List.append_nil]
    rfl
  | cons f fs ih =>
    obtain ⟨fuel, rfl⟩ := Nat.exists_eq_add_one_of_ne_zero (Nat.ne_zero_of_lt hfuel)
    have hnew : (found.any fun g => g.1 == f.1) = false := by
      rw [List.map_append, List.nodup_append] at hkeys
      rw [List.any_eq_false]
      intro g hg
      have := hkeys.2.2 g.1 (List.mem_map_of_mem hg) f.1 (by simp)
      simpa using this
    have hnext : another '\x7d' .endInObject .expectedCommaOrBrace false
        (',' :: (memberLine f ++ (fs.flatMap (fun f => ',' :: memberLine f) ++
          '\n' :: '\x7d' :: rest))) =
        .ok (true, '"' :: memberRest f
          (fs.flatMap (fun f => ',' :: memberLine f) ++ '\n' :: '\x7d' :: rest)) := by
      rw [memberLine_append]
      rfl
    rw [List.flatMap_cons, List.append_assoc, List.cons_append,
      members_member hnext hnew (hknown f (by simp)) (hfine f (by simp)),
      ih (by simpa using hfuel) (by simpa using hkeys) (fun g hg => hknown g (by simp [hg]))
        (fun g hg => hfine g (by simp [hg]))]
    simp

theorem object_cons (f : String × String) (fs : List (String × String)) :
    object (f :: fs) = '\x7b' :: (memberLine f ++
      (fs.flatMap (fun g => ',' :: memberLine g) ++ ['\n', '\x7d'])) := by
  have hjoin : ∀ (l : List Char) (ls : List (List Char)),
      List.intercalate [','] (l :: ls) = l ++ ls.flatMap (fun l => ',' :: l) := by
    intro l ls
    induction ls generalizing l with
    | nil => simp [List.intercalate]
    | cons l' ls ih => simp [List.intercalate_cons_cons, ih]
  change '\x7b' :: List.intercalate [','] (memberLine f :: fs.map memberLine) ++ ['\n', '\x7d'] = _
  rw [hjoin, List.flatMap_map]
  simp

theorem length_le_length_lines (fs : List (String × String)) :
    fs.length ≤ (fs.flatMap fun g => ',' :: memberLine g).length := by
  induction fs with
  | nil => simp
  | cons g fs ih =>
    simp only [List.flatMap_cons, List.length_append, List.length_cons]
    omega

/-- An object of known fields, no two of the same key, is read as it was written. -/
theorem fieldsOf_object {s : Schema} {f : String × String} {fs : List (String × String)}
    (rest : List Char) (hkeys : ((f :: fs).map Prod.fst).Nodup)
    (hknown : ∀ g ∈ f :: fs, s.fields.contains g.1 = true)
    (hfine : ∀ g ∈ f :: fs, s.complaint? g.1 g.2 = none) :
    fieldsOf s (object (f :: fs) ++ rest) = .ok (f :: fs, rest) := by
  let lines := fs.flatMap (fun g => ',' :: memberLine g) ++ '\n' :: '\x7d' :: rest
  have hobject : object (f :: fs) ++ rest = '\x7b' :: (memberLine f ++ lines) := by
    simp [object_cons, lines]
  have hfirst : another '\x7d' .endInObject .expectedCommaOrBrace true (memberLine f ++ lines) =
      .ok (true, '"' :: memberRest f lines) := by
    rw [memberLine_append]
    rfl
  have hfuel : fs.length < (memberLine f ++ lines).length := by
    have hlines := length_le_length_lines fs
    simp only [lines, List.length_append, List.length_cons]
    omega
  have hmembers : members s ((memberLine f ++ lines).length + 1) [] true (memberLine f ++ lines) =
      .ok (f :: fs, '\x7d' :: rest) := by
    rw [members_member hfirst rfl (hknown f (by simp)) (hfine f (by simp))]
    exact members_lines rest hfuel hkeys (fun g hg => hknown g (by simp [hg]))
      (fun g hg => hfine g (by simp [hg]))
  rw [hobject]
  unfold fieldsOf
  rw [bind_ok (peek_cons _ (by rfl))]
  simp only
  rw [bind_ok (drop_ok ..), List.drop_one, List.tail_cons, bind_ok (get_ok _), bind_ok hmembers]
  rfl

end Reader

end FormulaSheet.Json
