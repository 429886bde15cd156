import FormulaSheet.Proofs.Query.Reading

/-!
Clauses among other texts. A clause can be written in several ways: with blanks around its colon,
with its direction in either case, and with any character of its pattern behind a backslash
(`WrittenClause`). However it is written, it is taken whole and nothing of what follows it
(`takeClause?_written`). Other texts may stand before, between and behind clauses; where they have
no quote and do not end in a hyphen, no clause begins in them (`clausesWithin_noise`), and so a
query means the clauses that are written in it, in their order (`ofSpec_scattered`).
-/

namespace FormulaSheet.Query

/-! ## Written patterns -/

/-- A piece of a pattern as it is written between slashes: a character, or one behind a
backslash. -/
inductive Piece where
  | plain (c : Char) (h : c ≠ '/' ∧ c ≠ '\\')
  | pair (c : Char) (h : c ≠ '\n')

namespace Piece

def chars : Piece → List Char
  | plain c _ => [c]
  | pair c _ => ['\\', c]

/-- What a piece adds to the source of its pattern, where a slash needs no backslash. -/
def source : Piece → List Char
  | plain c _ => [c]
  | pair c _ => if c = '/' then ['/'] else ['\\', c]

theorem source_ne_nil (p : Piece) : p.source ≠ [] := by
  cases p with
  | plain c _ => exact List.cons_ne_nil _ _
  | pair c _ =>
    rw [source]
    split
    · exact List.cons_ne_nil _ _
    · exact List.cons_ne_nil _ _

end Piece

/-- The pieces up to the closing slash are read one by one. -/
theorem takeSlashed?_pieces (pieces : List Piece) (rest : List Char) :
    takeSlashed? (pieces.flatMap Piece.chars ++ '/' :: rest) =
      some (pieces.flatMap Piece.source, rest) := by
  induction pieces with
  | nil => rfl
  | cons piece pieces ih =>
    rw [List.flatMap_cons, List.flatMap_cons, List.append_assoc]
    cases piece with
    | plain c h =>
      obtain ⟨hslash, hbackslash⟩ := h
      simp [Piece.chars, Piece.source, takeSlashed?, hbackslash, ih]
    | pair c h => simp [Piece.chars, Piece.source, takeSlashed?, h, ih]

theorem isAsciiLetter_of_flagsOf? {letters : List Char} {f : Pattern.Flags}
    (h : flagsOf? letters = some f) : ∀ c ∈ letters, Text.isAsciiLetter c = true := by
  unfold flagsOf? at h
  generalize ({} : Pattern.Flags) = start at h
  induction letters generalizing start with
  | nil => exact fun c hc => absurd hc List.not_mem_nil
  | cons letter letters ih =>
    rw [List.foldlM_cons] at h
    obtain ⟨next, hletter, hrest⟩ := Option.bind_eq_some_iff.mp h
    intro c hc
    rcases List.mem_cons.mp hc with rfl | hc
    · -- only these letters are accepted
      split at hletter
      case h_8 => cases hletter
      all_goals rfl
    · exact ih next hrest c hc

/-! ## Written clauses -/

/-- What can be written behind the colon of a clause: a direction in any case, a text in quotes, or
a pattern that is accepted with its flags. -/
inductive WrittenDirective where
  | sort (direction : Direction) (spelled : List Char)
      (h : spelled.map Char.toLower = direction.word)
  | text (wanted : String)
  | pattern (pieces : List Piece) (flags : String) (matcher : Pattern) (hne : pieces ≠ [])
      (h : compile? (String.ofList (pieces.flatMap Piece.source)) flags = some matcher)

namespace WrittenDirective

def chars : WrittenDirective → List Char
  | sort _ spelled _ => spelled
  | text wanted => quoted wanted
  | pattern pieces flags .. => '/' :: pieces.flatMap Piece.chars ++ '/' :: flags.toList

/-- What a written directive says. -/
def directive : WrittenDirective → Directive
  | sort direction .. => .sort direction
  | text wanted => .text wanted
  | pattern pieces flags .. => .pattern (String.ofList (pieces.flatMap Piece.source)) flags

theorem takeDirective?_written (d : WrittenDirective) {rest : List Char} (hend : EndsClause rest) :
    takeDirective? (d.chars ++ rest) = some (d.directive, rest) := by
  cases d with
  | sort direction spelled h => exact takeDirective?_spelled h hend
  | text wanted =>
    rw [chars, quoted_append, takeDirective?, takeQuoted?_escaped]
    simp [directive]
  | pattern pieces flags matcher hne h =>
    obtain ⟨f, hflags, -⟩ := Option.bind_eq_some_iff.mp h
    have hsource : pieces.flatMap Piece.source ≠ [] := by
      cases pieces with
      | nil => exact absurd rfl hne
      | cons piece pieces => simp [piece.source_ne_nil]
    have htake := takeDirective?_of_takeSlashed? hsource (isAsciiLetter_of_flagsOf? hflags) hend
      (takeSlashed?_pieces pieces (flags.toList ++ rest))
    simpa [chars, directive] using htake

end WrittenDirective

/-- A clause as it is written, with any blanks around its colon. -/
structure WrittenClause where
  column : String
  directive : WrittenDirective
  negated : Bool := false
  before : List Char := []
  after : List Char := []
  blank_before : ∀ c ∈ before, Text.isBlank c = true := by simp
  blank_after : ∀ c ∈ after, Text.isBlank c = true := by simp

namespace WrittenClause

def chars (w : WrittenClause) : List Char :=
  (if w.negated then ['-'] else []) ++ quoted w.column ++ w.before ++ ':' :: w.after ++
    w.directive.chars

/-- What a written clause says. -/
def clause (w : WrittenClause) : Clause := ⟨w.column, w.directive.directive, w.negated⟩

/-- The filter that a clause gives; the hyphen before it negates the filter. -/
def filter? (w : WrittenClause) : Option Filter :=
  match w.directive with
  | .sort .. => none
  | .text wanted => some ⟨w.column, .text wanted, w.negated⟩
  | .pattern pieces flags matcher .. =>
    some ⟨w.column, .pattern (String.ofList (pieces.flatMap Piece.source)) flags matcher, w.negated⟩

/-- The sort key that a clause gives, with or without a hyphen before it. -/
def sortKey? (w : WrittenClause) : Option SortKey :=
  match w.directive with
  | .sort direction .. => some ⟨w.column, direction⟩
  | _ => none

end WrittenClause

/-- No directive begins with a blank. -/
theorem WrittenDirective.chars_head (d : WrittenDirective) (rest : List Char) :
    ∀ c ∈ (d.chars ++ rest).head?, Text.isBlank c = false := by
  cases d with
  | sort direction spelled h =>
    obtain ⟨c, cs, rfl, hletter⟩ := exists_letter_of_spelled h
    rintro _ ⟨⟩
    cases hblank : Text.isBlank c with
    | false => rfl
    | true =>
      have hword := isWord_of_isAsciiLetter hletter
      rw [Text.not_isWord_of_isBlank hblank] at hword
      cases hword
  | text wanted =>
    rintro _ ⟨⟩
    rfl
  | pattern pieces flags matcher hne h =>
    rintro _ ⟨⟩
    rfl

/-- A clause is taken as a whole where it begins, however it is written, and nothing of what follows
it. -/
theorem takeClause?_written (w : WrittenClause) {rest : List Char} (hend : EndsClause rest) :
    takeClause? (w.chars ++ rest) = some (w.clause, rest) := by
  have htake := takeClause?_of_takeDirective? w.blank_before w.blank_after
    (w.directive.chars_head rest) (w.directive.takeDirective?_written hend) w.column w.negated
  simpa [WrittenClause.chars, WrittenClause.clause] using htake

theorem WrittenClause.chars_ne_nil (w : WrittenClause) : w.chars ≠ [] := by
  simp [WrittenClause.chars, quoted]

/-! ## Texts around clauses -/

/-- A text in which no clause begins, whatever follows it. -/
structure IsNoise (noise : List Char) : Prop where
  no_quote : '"' ∉ noise
  no_hyphen : noise.getLast? ≠ some '-'

theorem IsNoise.tail {c : Char} {cs : List Char} (h : IsNoise (c :: cs)) : IsNoise cs := by
  refine ⟨fun hmem => h.no_quote (List.mem_cons_of_mem _ hmem), fun hlast => h.no_hyphen ?_⟩
  cases cs with
  | nil => cases hlast
  | cons d ds => rw [List.getLast?_cons_cons, hlast]

/-- A hyphen in such a text stands before some character of it that is no quote. -/
theorem IsNoise.takeClause? {c : Char} {cs : List Char} (h : IsNoise (c :: cs))
    (rest : List Char) : takeClause? (c :: (cs ++ rest)) = none := by
  have hquote : c ≠ '"' := fun heq => h.no_quote (heq ▸ List.mem_cons_self)
  by_cases hhyphen : c = '-'
  · subst hhyphen
    cases cs with
    | nil => exact absurd rfl h.no_hyphen
    | cons d ds =>
      have hnext : d ≠ '"' := fun heq => h.no_quote (heq ▸ by simp)
      simp [Query.takeClause?, takeUnsigned?, hnext]
  · simp [Query.takeClause?, takeUnsigned?, hquote, hhyphen]

/-- Such a text is passed over. -/
theorem clausesWithin_noise {noise : List Char} (h : IsNoise noise) (rest : List Char) (n : Nat) :
    clausesWithin (noise.length + n) (noise ++ rest) = clausesWithin n rest := by
  induction noise with
  | nil => rw [List.length_nil, Nat.zero_add, List.nil_append]
  | cons c cs ih =>
    rw [List.length_cons, Nat.add_right_comm, List.cons_append, clausesWithin, h.takeClause? rest]
    exact ih h.tail

/-- Clauses in their order with a text behind each of them that begins with a blank; the last text
can be empty. -/
inductive IsScattered : List WrittenClause → List Char → Prop
  | nil : IsScattered [] []
  | cons {w : WrittenClause} {ws : List WrittenClause} {noise rest : List Char}
      (hnoise : IsNoise noise) (hblank : ∀ c ∈ noise.head?, Text.isBlank c = true)
      (hlast : noise = [] → ws = []) (hrest : IsScattered ws rest) :
      IsScattered (w :: ws) (w.chars ++ (noise ++ rest))

theorem IsScattered.eq_nil {text : List Char} (h : IsScattered [] text) : text = [] := by
  cases h
  rfl

/-- What follows a clause does not go on with its last word. -/
theorem IsScattered.endsClause {ws : List WrittenClause} {noise rest : List Char}
    (hblank : ∀ c ∈ noise.head?, Text.isBlank c = true) (hlast : noise = [] → ws = [])
    (hrest : IsScattered ws rest) : EndsClause (noise ++ rest) := by
  cases noise with
  | nil =>
    obtain rfl := hlast rfl
    rw [hrest.eq_nil]
    exact endsClause_nil
  | cons c cs =>
    have hc := Text.not_isWord_of_isBlank (hblank c rfl)
    simp [EndsClause, hc]

/-- The clauses that are found are the written ones. -/
theorem IsScattered.clausesWithin {ws : List WrittenClause} {text : List Char}
    (h : IsScattered ws text) (n : Nat) (hn : text.length ≤ n) :
    clausesWithin n text = ws.map WrittenClause.clause := by
  induction h generalizing n with
  | nil => cases n <;> rfl
  | @cons w ws noise rest hnoise hblank hlast hrest ih =>
    have hpos := List.length_pos_iff.mpr w.chars_ne_nil
    simp only [List.length_append] at hn
    obtain ⟨n, rfl⟩ : ∃ m, n = noise.length + m + 1 := ⟨n - noise.length - 1, by omega⟩
    have htake := takeClause?_written w (hrest.endsClause hblank hlast)
    rw [clausesWithin_of_takeClause? htake, clausesWithin_noise hnoise, ih n (by omega),
      List.map_cons]

theorem addWith_written (w : WrittenClause) (q : Query) :
    q.addWith compile? w.clause =
      ⟨q.filters ++ w.filter?.toList, q.sorts ++ w.sortKey?.toList⟩ := by
  obtain ⟨column, directive, negated, before, after, hbefore, hafter⟩ := w
  cases directive with
  | sort direction spelled h =>
    simp [addWith, WrittenClause.clause, WrittenDirective.directive, WrittenClause.filter?,
      WrittenClause.sortKey?]
  | text wanted =>
    simp [addWith, WrittenClause.clause, WrittenDirective.directive, WrittenClause.filter?,
      WrittenClause.sortKey?]
  | pattern pieces flags matcher hne h =>
    simp [addWith, WrittenClause.clause, WrittenDirective.directive, WrittenClause.filter?,
      WrittenClause.sortKey?, h]

theorem foldl_addWith_written (ws : List WrittenClause) (q : Query) :
    (ws.map WrittenClause.clause).foldl (addWith compile?) q =
      ⟨q.filters ++ ws.filterMap WrittenClause.filter?,
        q.sorts ++ ws.filterMap WrittenClause.sortKey?⟩ := by
  induction ws generalizing q with
  | nil => simp
  | cons w ws ih =>
    rw [List.map_cons, List.foldl_cons, addWith_written, ih]
    cases hfilter : w.filter? <;> cases hsort : w.sortKey? <;> simp [hfilter, hsort]

/-- A text with clauses in it means the query of these clauses and nothing else, whatever stands
before, between and behind them: no quote may be in there, no hyphen at the end, and behind a clause
comes a blank. The filters are those of the list in its order, negated where a hyphen stands before
them; the sort keys are too, and a hyphen makes no difference to them. -/
theorem ofSpec_scattered {ws : List WrittenClause} {lead text : List Char} (hlead : IsNoise lead)
    (htext : IsScattered ws text) :
    ofSpec (String.ofList (lead ++ text)) =
      { filters := ws.filterMap WrittenClause.filter?
        sorts := ws.filterMap WrittenClause.sortKey? } := by
  have hclauses : clauses (String.ofList (lead ++ text)) = ws.map WrittenClause.clause := by
    have hlength : (String.ofList (lead ++ text)).length = lead.length + text.length := by simp
    rw [clauses, hlength, String.toList_ofList, clausesWithin_noise hlead]
    exact htext.clausesWithin _ (Nat.le_refl _)
  rw [ofSpec, ofSpecWith, hclauses, foldl_addWith_written]
  rfl

/-! A text that looks like a clause inside of a clause, a slash and a quote in a pattern, a hyphen
among other words, and blanks of several kinds. -/

def textClause : WrittenClause :=
  { column := "t", directive := .text "\"b\":ASC", negated := true }

def patternClause : WrittenClause :=
  { column := "p"
    directive := .pattern [.plain 'a' (by decide), .pair '/' (by decide), .plain '"' (by decide)]
      "gi" ((compile? "a/\"" "gi").get (by decide +kernel)) (by decide) (Option.some_get _).symm }

def sortClause : WrittenClause :=
  { column := "d", directive := .sort .descending ['d', 'E', 's', 'C'] (by decide), negated := true
    before := [' '], after := [' ']
    blank_before := List.forall_mem_singleton.mpr rfl
    blank_after := List.forall_mem_singleton.mpr rfl }

theorem ofSpec_scattered_inWords :
    ofSpec "so: -\"t\":\"\\\"b\\\":ASC\" and - then \"p\":/a\\/\"/gi\n-\"d\" : dEsC\u3000" =
      { filters :=
          [⟨"t", .text "\"b\":ASC", true⟩,
            ⟨"p", .pattern "a/\"" "gi" ((compile? "a/\"" "gi").get (by decide +kernel)), false⟩]
        sorts := [⟨"d", .descending⟩] } := by
  have hlead : IsNoise "so: ".toList := ⟨by decide, by decide⟩
  have hsort : IsScattered [sortClause] (sortClause.chars ++ ("\u3000".toList ++ [])) :=
    .cons ⟨by decide, by decide⟩ (by rintro c ⟨⟩; rfl) (by decide) .nil
  have hpattern : IsScattered [patternClause, sortClause]
      (patternClause.chars ++ ("\n".toList ++ _)) :=
    .cons ⟨by decide, by decide⟩ (by rintro c ⟨⟩; rfl) (by decide) hsort
  have htext : IsScattered [textClause, patternClause, sortClause]
      (textClause.chars ++ (" and - then ".toList ++ _)) :=
    .cons ⟨by decide, by decide⟩ (by rintro c ⟨⟩; rfl) (by decide) hpattern
  have hspec : String.ofList ("so: ".toList ++ (textClause.chars ++ (" and - then ".toList ++
      (patternClause.chars ++ ("\n".toList ++ (sortClause.chars ++ ("\u3000".toList ++ []))))))) =
      "so: -\"t\":\"\\\"b\\\":ASC\" and - then \"p\":/a\\/\"/gi\n-\"d\" : dEsC\u3000" := by
    decide +kernel
  rw [← hspec, ofSpec_scattered hlead htext]
  rfl

end FormulaSheet.Query
