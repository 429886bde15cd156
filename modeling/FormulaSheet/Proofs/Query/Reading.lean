import FormulaSheet.Query.Clause
import FormulaSheet.Proofs.Text.Scanning

/-!
Reading clauses one by one. A clause that is written is found where it begins and read as it was
(`takeClause?_chars`), whatever follows it that no word goes on with; and every clause that is
found can be written again (`clausesWithin_isWritable`). Patterns decide this: only some texts can
be the source of one, since a slash that ends a pattern has no backslash before it.
-/

namespace FormulaSheet.Query

/-! ## Quoted texts -/

/-- The text between the quotes of `quoted`. -/
def escaped (cs : List Char) : List Char :=
  cs.flatMap fun c => if c = '"' ∨ c = '\\' then ['\\', c] else [c]

theorem quoted_append (text : String) (rest : List Char) :
    quoted text ++ rest = '"' :: (escaped text.toList ++ '"' :: rest) := by
  simp [quoted, escaped]

theorem takeQuoted?_escaped (cs rest : List Char) :
    takeQuoted? (escaped cs ++ '"' :: rest) = some (cs, rest) := by
  induction cs with
  | nil => rfl
  | cons c cs ih =>
    have he : escaped (c :: cs) = (if c = '"' ∨ c = '\\' then ['\\', c] else [c]) ++ escaped cs :=
      rfl
    rw [he]
    by_cases hc : c = '"' ∨ c = '\\'
    · have hn : c ≠ '\n' := by rcases hc with rfl | rfl <;> decide
      simp [if_pos hc, takeQuoted?, hn, ih]
    · rw [if_neg hc]
      simp only [not_or] at hc
      simp [takeQuoted?, hc, ih]

theorem length_of_takeQuoted? {cs s r : List Char} (h : takeQuoted? cs = some (s, r)) :
    r.length < cs.length := by
  fun_induction takeQuoted? cs generalizing s r with
  | case1 => simp at h
  | case2 cs => simp_all
  | case3 => simp at h
  | case4 c cs _ ih =>
    obtain ⟨⟨s', r'⟩, hq, he⟩ := Option.map_eq_some_iff.mp h
    cases he
    have := ih hq
    simp only [List.length_cons]
    omega
  | case5 => simp at h
  | case6 c cs _ _ _ ih =>
    obtain ⟨⟨s', r'⟩, hq, he⟩ := Option.map_eq_some_iff.mp h
    cases he
    have := ih hq
    simp only [List.length_cons]
    omega

/-! ## Sources of patterns -/

/-- What the source of a pattern can be: a backslash takes the character after it along, which is
no line feed, and no slash either because that slash would have lost the backslash. -/
inductive IsSource : List Char → Prop
  | nil : IsSource []
  | pair {c : Char} {cs : List Char} (hn : c ≠ '\n') (hs : c ≠ '/') :
      IsSource cs → IsSource ('\\' :: c :: cs)
  | single {c : Char} {cs : List Char} (hb : c ≠ '\\') : IsSource cs → IsSource (c :: cs)

/-- The text between the slashes of `slashed`. -/
def slashEscaped (cs : List Char) : List Char :=
  cs.flatMap fun c => if c = '/' then ['\\', c] else [c]

theorem slashed_append (source : String) (rest : List Char) :
    slashed source ++ rest = '/' :: (slashEscaped source.toList ++ '/' :: rest) := by
  simp [slashed, slashEscaped]

theorem slashEscaped_cons (c : Char) (cs : List Char) :
    slashEscaped (c :: cs) = (if c = '/' then ['\\', c] else [c]) ++ slashEscaped cs := rfl

/-- A source is read as it was written, up to the slash that closes it. -/
theorem takeSlashed?_slashEscaped {cs : List Char} (h : IsSource cs) (rest : List Char) :
    takeSlashed? (slashEscaped cs ++ '/' :: rest) = some (cs, rest) := by
  induction h with
  | nil => rfl
  | @pair c cs hn hs _ ih => simp [slashEscaped_cons, hs, takeSlashed?, hn, ih]
  | @single c cs hb _ ih =>
    by_cases hc : c = '/'
    · subst hc
      simp [slashEscaped_cons, takeSlashed?, ih]
    · simp [slashEscaped_cons, hc, takeSlashed?, hb, ih]

theorem isSource_of_takeSlashed? {cs s r : List Char} (h : takeSlashed? cs = some (s, r)) :
    IsSource s ∧ r.length < cs.length := by
  fun_induction takeSlashed? cs generalizing s r with
  | case1 => simp at h
  | case2 cs =>
    simp only [Option.some.injEq, Prod.mk.injEq] at h
    obtain ⟨rfl, rfl⟩ := h
    exact ⟨.nil, by simp⟩
  | case3 => simp at h
  | case4 c cs hn ih =>
    obtain ⟨⟨s', r'⟩, hq, he⟩ := Option.map_eq_some_iff.mp h
    obtain ⟨hsource, hlen⟩ := ih hq
    cases he
    refine ⟨?_, by simp only [List.length_cons]; omega⟩
    by_cases hc : c = '/'
    · subst hc
      exact .single (by decide) hsource
    · simpa [hc] using hsource.pair hn hc
  | case5 => simp at h
  | case6 c cs _ hpair hlone ih =>
    obtain ⟨⟨s', r'⟩, hq, he⟩ := Option.map_eq_some_iff.mp h
    obtain ⟨hsource, hlen⟩ := ih hq
    cases he
    have hb : c ≠ '\\' := by
      intro hc
      cases cs with
      | nil => exact hlone hc rfl
      | cons d ds => exact hpair d ds hc rfl
    exact ⟨.single hb hsource, by simp only [List.length_cons]; omega⟩

/-! ## Ends of clauses -/

theorem isWord_of_isAsciiLetter {c : Char} (h : Text.isAsciiLetter c = true) :
    Text.isWord c = true := by
  have hc : c.toNat < 128 := by
    simp only [Text.isAsciiLetter, Bool.or_eq_true, Bool.and_eq_true, decide_eq_true_eq,
      Char.le_def, UInt32.le_iff_toNat_le] at h
    simp only [Char.toNat]
    rcases h with ⟨_, h⟩ | ⟨_, h⟩ <;> exact Nat.lt_of_le_of_lt h (by decide)
  simp [Text.isWord, hc, Text.isAsciiAlphanumeric, h]

/-- What can follow a clause: nothing that a word goes on with. -/
def EndsClause (rest : List Char) : Prop := rest.head?.any Text.isWord = false

theorem endsClause_nil : EndsClause [] := rfl

theorem endsClause_space (rest : List Char) : EndsClause (' ' :: rest) := rfl

theorem EndsClause.takeWhile_letters {rest : List Char} (h : EndsClause rest) (letters : List Char)
    (hl : ∀ c ∈ letters, Text.isAsciiLetter c = true) :
    (letters ++ rest).takeWhile Text.isAsciiLetter = letters ∧
      (letters ++ rest).dropWhile Text.isAsciiLetter = rest := by
  have hrest : rest.takeWhile Text.isAsciiLetter = [] ∧
      rest.dropWhile Text.isAsciiLetter = rest := by
    cases rest with
    | nil => simp
    | cons c cs =>
      have hc : Text.isAsciiLetter c = false := by
        cases hc : Text.isAsciiLetter c with
        | false => rfl
        | true => simp [EndsClause, isWord_of_isAsciiLetter hc] at h
      simp [hc]
  rw [List.takeWhile_append_of_pos hl, List.dropWhile_append_of_pos hl, hrest.1, hrest.2]
  simp

/-! ## Directions -/

theorem forall_ascii {P : Char → Prop} (h : ∀ n < 128, P (Char.ofNat n)) {c : Char}
    (hc : c.toNat < 128) : P c := by
  have hp := h c.toNat hc
  rwa [Char.ofNat_toNat] at hp

theorem fold_eq_toLower {c : Char} (h : c.toNat < 128) : Text.fold c = c.toLower :=
  forall_ascii (P := fun c => Text.fold c = c.toLower) (by decide +kernel) h

theorem toNat_lt_of_toLower {c : Char} (h : c.toLower.toNat < 128) : c.toNat < 128 := by
  by_cases hsmall : c.toNat < 128
  · exact hsmall
  · have hsame : c.toLower = c := by
      unfold Char.toLower
      rw [dif_neg]
      intro hupper
      have hz : c.toNat ≤ 90 := UInt32.le_iff_toNat_le.mp hupper.2
      omega
    rwa [hsame] at h

/-- A word that is spelled in ASCII in any case is taken for the word. -/
theorem map_fold_of_map_toLower {found word : List Char} (h : found.map Char.toLower = word)
    (hword : ∀ c ∈ word, c.toNat < 128) : found.map Text.fold = word := by
  rw [← h]
  refine List.map_congr_left fun c hc => fold_eq_toLower (toNat_lt_of_toLower (hword _ ?_))
  rw [← h]
  exact List.mem_map_of_mem hc

theorem isAsciiLetter_of_toLower {c : Char} (h : Text.isAsciiLetter c.toLower = true)
    (hsmall : c.toLower.toNat < 128) : Text.isAsciiLetter c = true :=
  forall_ascii (P := fun c => Text.isAsciiLetter c.toLower = true → Text.isAsciiLetter c = true)
    (by decide +kernel) (toNat_lt_of_toLower hsmall) h

theorem takeWord?_append {found word : List Char} (h : found.map Text.fold = word)
    (rest : List Char) : takeWord? word (found ++ rest) = some (found, rest) := by
  have hlen : word.length = found.length := by rw [← h, List.length_map]
  simp [takeWord?, hlen, h]

/-- The name of a direction in lower case. -/
def Direction.word : Direction → List Char
  | .ascending => "asc".toList
  | .descending => "desc".toList

theorem takeDirection?_spelled {d : Direction} {spelled rest : List Char}
    (h : spelled.map Char.toLower = d.word) (hend : EndsClause rest) :
    takeDirection? (spelled ++ rest) = some (d, rest) := by
  have hword : spelled.map Text.fold = d.word :=
    map_fold_of_map_toLower h (by cases d <;> simp [Direction.word])
  have htake := takeWord?_append hword rest
  cases d with
  | ascending =>
    have ha : takeWord? "asc".toList (spelled ++ rest) = some (spelled, rest) := htake
    simp only [takeDirection?, ha]
    rw [if_neg (by simpa [EndsClause] using hend)]
  | descending =>
    have hd : takeWord? "desc".toList (spelled ++ rest) = some (spelled, rest) := htake
    have ha : takeWord? "asc".toList (spelled ++ rest) = none := by
      have hletters : spelled.map Text.fold = ['d', 'e', 's', 'c'] := hword
      obtain ⟨c, cs, rfl, hc, -⟩ := List.map_eq_cons_iff.mp hletters
      simp [takeWord?, hc]
    have hlower : spelled.map Char.toLower = "desc".toList := h
    simp only [takeDirection?, ha, hd]
    rw [if_neg (by simpa [EndsClause] using hend), if_pos hlower]

/-- The name of a direction begins with a letter. -/
theorem exists_letter_of_spelled {d : Direction} {spelled : List Char}
    (h : spelled.map Char.toLower = d.word) :
    ∃ c cs, spelled = c :: cs ∧ Text.isAsciiLetter c = true := by
  cases d with
  | ascending =>
    have hletters : spelled.map Char.toLower = ['a', 's', 'c'] := h
    obtain ⟨c, cs, rfl, hc, -⟩ := List.map_eq_cons_iff.mp hletters
    exact ⟨c, cs, rfl, isAsciiLetter_of_toLower (hc ▸ by decide) (hc ▸ by decide)⟩
  | descending =>
    have hletters : spelled.map Char.toLower = ['d', 'e', 's', 'c'] := h
    obtain ⟨c, cs, rfl, hc, -⟩ := List.map_eq_cons_iff.mp hletters
    exact ⟨c, cs, rfl, isAsciiLetter_of_toLower (hc ▸ by decide) (hc ▸ by decide)⟩

/-! ## Directives -/

/-- The name of a direction is read in any case. -/
theorem takeDirective?_spelled {d : Direction} {spelled rest : List Char}
    (h : spelled.map Char.toLower = d.word) (hend : EndsClause rest) :
    takeDirective? (spelled ++ rest) = some (.sort d, rest) := by
  have htake := takeDirection?_spelled h hend
  obtain ⟨c, cs, rfl, hletter⟩ := exists_letter_of_spelled h
  have hquote : c ≠ '"' := by
    rintro rfl
    exact absurd hletter (by decide)
  have hslash : c ≠ '/' := by
    rintro rfl
    exact absurd hletter (by decide)
  rw [List.cons_append] at *
  simp [takeDirective?, hquote, hslash, htake]

/-- A pattern is read with all letters behind its closing slash. -/
theorem takeDirective?_of_takeSlashed? {cs source flags rest : List Char} (hne : source ≠ [])
    (hflags : ∀ c ∈ flags, Text.isAsciiLetter c = true) (hend : EndsClause rest)
    (h : takeSlashed? cs = some (source, flags ++ rest)) :
    takeDirective? ('/' :: cs) =
      some (.pattern (String.ofList source) (String.ofList flags), rest) := by
  obtain ⟨htake, hdrop⟩ := hend.takeWhile_letters flags hflags
  cases source with
  | nil => exact absurd rfl hne
  | cons c source => simp [takeDirective?, h, htake, hdrop]

def Directive.chars : Directive → List Char
  | .sort direction => direction.chars
  | .text wanted => quoted wanted
  | .pattern source flags => slashed source ++ flags.toList

/-- A directive that is read as it is written. -/
def Directive.IsWritable : Directive → Prop
  | .pattern source flags =>
    source.toList ≠ [] ∧ IsSource source.toList ∧ ∀ c ∈ flags.toList, Text.isAsciiLetter c = true
  | _ => True

theorem takeDirective?_chars {d : Directive} (hd : d.IsWritable) {rest : List Char}
    (h : EndsClause rest) : takeDirective? (d.chars ++ rest) = some (d, rest) := by
  cases d with
  | sort direction => exact takeDirective?_spelled (by cases direction <;> rfl) h
  | text wanted =>
    rw [Directive.chars, quoted_append, takeDirective?, takeQuoted?_escaped]
    simp
  | pattern source flags =>
    obtain ⟨hne, hsource, hflags⟩ := hd
    have hslashed := takeSlashed?_slashEscaped hsource (flags.toList ++ rest)
    rw [Directive.chars, List.append_assoc, slashed_append,
      takeDirective?_of_takeSlashed? hne hflags h hslashed]
    simp

theorem length_of_takeWord? {word cs found r : List Char} (hw : word ≠ [])
    (h : takeWord? word cs = some (found, r)) : r.length < cs.length := by
  simp only [takeWord?] at h
  split at h
  · rename_i hfound
    cases h
    have hlen := congrArg List.length hfound
    have := List.length_pos_iff.mpr hw
    simp only [List.length_map, List.length_take, List.length_drop] at hlen ⊢
    omega
  · cases h

theorem length_of_takeDirection? {cs r : List Char} {d : Direction}
    (h : takeDirection? cs = some (d, r)) : r.length < cs.length := by
  have hasc : "asc".toList ≠ [] := by decide
  have hdesc : "desc".toList ≠ [] := by decide
  unfold takeDirection? at h
  split at h
  · rename_i hw
    have := length_of_takeWord? hasc hw
    split at h <;> cases h
    exact this
  · rename_i hw _
    have := length_of_takeWord? hdesc hw
    split at h
    · cases h
    · split at h <;> cases h <;> exact this
  · cases h

theorem isWritable_of_takeDirective? {cs r : List Char} {d : Directive}
    (h : takeDirective? cs = some (d, r)) : d.IsWritable ∧ r.length < cs.length := by
  unfold takeDirective? at h
  split at h
  · obtain ⟨⟨s, r'⟩, hq, he⟩ := Option.map_eq_some_iff.mp h
    cases he
    exact ⟨trivial, Nat.lt_succ_of_lt (length_of_takeQuoted? hq)⟩
  · split at h
    · rename_i cs c s rest hs
      obtain ⟨hsource, hlen⟩ := isSource_of_takeSlashed? hs
      have hdrop := (List.dropWhile_suffix Text.isAsciiLetter (l := rest)).length_le
      cases h
      refine ⟨⟨by simp, by simpa using hsource, ?_⟩, by simp only [List.length_cons]; omega⟩
      intro c hc
      rw [String.toList_ofList] at hc
      exact List.all_eq_true.mp List.all_takeWhile c hc
    · cases h
  · obtain ⟨⟨d', r'⟩, hd, he⟩ := Option.map_eq_some_iff.mp h
    cases he
    exact ⟨trivial, length_of_takeDirection? hd⟩

/-! ## Clauses -/

def Clause.chars (c : Clause) : List Char :=
  (if c.negated then ['-'] else []) ++ quoted c.column ++ ':' :: c.directive.chars

theorem Directive.chars_head (d : Directive) (rest : List Char) :
    ∀ c ∈ (d.chars ++ rest).head?, Text.isBlank c = false := by
  rcases d with (_ | _) | _ | _
  all_goals
    rintro c ⟨⟩
    rfl

/-- A clause begins with its column and a colon, with any blanks around it; then comes what is read
as a directive. -/
theorem takeUnsigned?_of_takeDirective? {before after cs rest : List Char} {d : Directive}
    (hbefore : ∀ c ∈ before, Text.isBlank c = true) (hafter : ∀ c ∈ after, Text.isBlank c = true)
    (hcs : ∀ c ∈ cs.head?, Text.isBlank c = false) (h : takeDirective? cs = some (d, rest))
    (column : String) (negated : Bool) :
    takeUnsigned? negated (quoted column ++ (before ++ ':' :: (after ++ cs))) =
      some (⟨column, d, negated⟩, rest) := by
  have hcolon : (before ++ ':' :: (after ++ cs)).dropWhile Text.isBlank = ':' :: (after ++ cs) :=
    Scanning.dropWhile_append hbefore (by rintro c ⟨⟩; rfl)
  have hdirective : (after ++ cs).dropWhile Text.isBlank = cs :=
    Scanning.dropWhile_append hafter hcs
  rw [quoted_append, takeUnsigned?, takeQuoted?_escaped]
  simp only [hcolon, hdirective, h]
  simp

theorem takeClause?_of_takeDirective? {before after cs rest : List Char} {d : Directive}
    (hbefore : ∀ c ∈ before, Text.isBlank c = true) (hafter : ∀ c ∈ after, Text.isBlank c = true)
    (hcs : ∀ c ∈ cs.head?, Text.isBlank c = false) (h : takeDirective? cs = some (d, rest))
    (column : String) (negated : Bool) :
    takeClause? ((if negated then ['-'] else []) ++ quoted column ++ before ++ ':' :: after ++ cs) =
      some (⟨column, d, negated⟩, rest) := by
  have hunsigned := takeUnsigned?_of_takeDirective? hbefore hafter hcs h column negated
  cases negated with
  | true => simpa [takeClause?] using hunsigned
  | false => simpa [quoted, takeClause?] using hunsigned

/-- A written clause is found where it begins, and nothing of what follows it is taken. -/
theorem takeClause?_chars (c : Clause) (hc : c.directive.IsWritable) {rest : List Char}
    (h : EndsClause rest) : takeClause? (c.chars ++ rest) = some (c, rest) := by
  have hnone : ∀ c ∈ ([] : List Char), Text.isBlank c = true := List.forall_mem_nil _
  have htake := takeClause?_of_takeDirective? hnone hnone (c.directive.chars_head rest)
    (takeDirective?_chars hc h) c.column c.negated
  simpa [Clause.chars] using htake

theorem isWritable_of_takeUnsigned? {negated : Bool} {cs r : List Char} {c : Clause}
    (h : takeUnsigned? negated cs = some (c, r)) :
    c.directive.IsWritable ∧ r.length < cs.length := by
  unfold takeUnsigned? at h
  split at h
  · rename_i cs
    split at h
    · cases h
    · rename_i column cs' hq
      have hq := length_of_takeQuoted? hq
      split at h
      · rename_i cs'' hcolon
        obtain ⟨⟨d, r'⟩, hd, he⟩ := Option.map_eq_some_iff.mp h
        obtain ⟨hw, hlen⟩ := isWritable_of_takeDirective? hd
        have hblank := (List.dropWhile_suffix Text.isBlank (l := cs'')).length_le
        have hblank' := (List.dropWhile_suffix Text.isBlank (l := cs')).length_le
        rw [hcolon] at hblank'
        cases he
        simp only [List.length_cons] at *
        exact ⟨hw, by omega⟩
      · cases h
  · cases h

theorem isWritable_of_takeClause? {cs r : List Char} {c : Clause}
    (h : takeClause? cs = some (c, r)) : c.directive.IsWritable ∧ r.length < cs.length := by
  unfold takeClause? at h
  split at h
  · obtain ⟨hw, hlen⟩ := isWritable_of_takeUnsigned? h
    exact ⟨hw, Nat.lt_succ_of_lt hlen⟩
  · exact isWritable_of_takeUnsigned? h

/-! ## Lines of clauses -/

theorem clausesWithin_isWritable (n : Nat) (cs : List Char) :
    ∀ c ∈ clausesWithin n cs, c.directive.IsWritable := by
  fun_induction clausesWithin n cs with
  | case1 => simp
  | case2 => simp
  | case3 n c cs clause rest h ih =>
    intro d hd
    rcases List.mem_cons.mp hd with rfl | hd
    · exact (isWritable_of_takeClause? h).1
    · exact ih d hd
  | case4 n c cs h ih => exact ih

/-- Clauses with a blank between any two of them. -/
def line (clauses : List Clause) : List Char := List.intercalate [' '] (clauses.map Clause.chars)

theorem Clause.chars_ne_nil (c : Clause) : c.chars ≠ [] := by
  simp [Clause.chars, quoted]

/-- With places enough to look at, a clause with which a text begins is the next one that is
found. -/
theorem clausesWithin_of_takeClause? {cs rest : List Char} {c : Clause}
    (h : takeClause? cs = some (c, rest)) (n : Nat) :
    clausesWithin (n + 1) cs = c :: clausesWithin n rest := by
  cases cs with
  | nil => cases h
  | cons d ds => rw [clausesWithin, h]

/-- The clauses of a line are found one by one, and nothing else is found. -/
theorem clausesWithin_line (cs : List Clause) (hcs : ∀ c ∈ cs, c.directive.IsWritable) (n : Nat)
    (hn : (line cs).length ≤ n) : clausesWithin n (line cs) = cs := by
  induction cs generalizing n with
  | nil => cases n <;> rfl
  | cons c cs ih =>
    have hpos := List.length_pos_iff.mpr c.chars_ne_nil
    have hc := hcs c (by simp)
    cases cs with
    | nil =>
      have hl : line [c] = c.chars ++ [] := by simp [line]
      rw [hl] at hn ⊢
      obtain ⟨n, rfl⟩ : ∃ m, n = m + 1 := ⟨n - 1, by simp at hn; omega⟩
      rw [clausesWithin_of_takeClause? (takeClause?_chars c hc endsClause_nil)]
      cases n <;> rfl
    | cons next cs =>
      have hl : line (c :: next :: cs) = c.chars ++ ' ' :: line (next :: cs) := by simp [line]
      rw [hl] at hn ⊢
      simp only [List.length_append, List.length_cons] at hn
      obtain ⟨n, rfl⟩ : ∃ m, n = m + 2 := ⟨n - 2, by omega⟩
      have hblank : takeClause? (' ' :: line (next :: cs)) = none := rfl
      rw [clausesWithin_of_takeClause? (takeClause?_chars c hc (endsClause_space _)), clausesWithin,
        hblank]
      simp only [ih (fun d hd => hcs d (by simp [hd])) n (by omega)]

theorem clauses_line (cs : List Clause) (hcs : ∀ c ∈ cs, c.directive.IsWritable) :
    clauses (String.ofList (line cs)) = cs := by
  rw [clauses, String.toList_ofList]
  exact clausesWithin_line cs hcs _ (by simp)

end FormulaSheet.Query
