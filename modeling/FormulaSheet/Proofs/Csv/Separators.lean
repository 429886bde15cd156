import FormulaSheet.Proofs.Csv.RoundTrip

/-!
What separates cells and rows. A comma or a line break ends a cell or a row when an even number of
quotes stands before it, however they are placed, and is a character of its cell otherwise
(`separators_by_quote_parity`). Reading looks one character ahead after a quote; here it goes
character by character and remembers such a quote instead (`advance`), so that a text can be cut
anywhere.
-/

namespace FormulaSheet.Csv

/-- Where a reader stands that does not look ahead. -/
inductive Place where
  | outside
  | inside
  /-- Behind a quote that ends quoting, unless another one follows. -/
  | behindQuote
  deriving DecidableEq

/-- Reads one character. -/
def advance : Place × Progress → Char → Place × Progress
  | (.inside, p), '"' => (.behindQuote, p)
  | (.inside, p), c => (.inside, p.push c)
  | (.outside, p), '"' => (.inside, p)
  | (.behindQuote, p), '"' => (.inside, p.push '"')
  | (_, p), ',' => (.outside, p.endCell)
  | (_, p), '\n' => (.outside, p.endRow)
  | (_, p), c => (.outside, p.push c)

/-- Where a reader stands that has read a text from its start. -/
def scan (cs : List Char) : Place × Progress := cs.foldl advance (.outside, {})

/-- Whether a line break with an even number of quotes before it stands at a place. -/
def breaksRow (cs : List Char) (i : Nat) : Bool :=
  cs[i]? == some '\n' && (cs.take i).count '"' % 2 == 0

/-! ## One character -/

section

variable {place : Place} {c : Char} (p : Progress)

theorem advance_inside (hc : c ≠ '"') : advance (.inside, p) c = (.inside, p.push c) := by
  unfold advance
  split <;> simp_all

theorem advance_comma (hplace : place ≠ .inside) :
    advance (place, p) ',' = (.outside, p.endCell) := by
  cases place with
  | inside => exact absurd rfl hplace
  | _ => rfl

theorem advance_lineBreak (hplace : place ≠ .inside) :
    advance (place, p) '\n' = (.outside, p.endRow) := by
  cases place with
  | inside => exact absurd rfl hplace
  | _ => rfl

theorem advance_plain (hplace : place ≠ .inside) (hq : c ≠ '"') (hc : c ≠ ',') (hn : c ≠ '\n') :
    advance (place, p) c = (.outside, p.push c) := by
  unfold advance
  split <;> simp_all

/-- Every character does one thing, whatever has been read before: it is none of the cell, is one of
it, ends the cell or ends the row. -/
theorem advance_cases (place : Place) (c : Char) :
    ∃ next, (∀ p, advance (place, p) c = (next, p)) ∨
      (∀ p, advance (place, p) c = (next, p.push c)) ∨
      (∀ p, advance (place, p) c = (next, p.endCell)) ∨
      ∀ p, advance (place, p) c = (next, p.endRow) := by
  by_cases hq : c = '"'
  · subst hq
    cases place with
    | outside => exact ⟨.inside, .inl fun _ => rfl⟩
    | inside => exact ⟨.behindQuote, .inl fun _ => rfl⟩
    | behindQuote => exact ⟨.inside, .inr (.inl fun _ => rfl)⟩
  · by_cases hplace : place = .inside
    · subst hplace
      exact ⟨.inside, .inr (.inl fun p => advance_inside p hq)⟩
    · by_cases hc : c = ','
      · subst hc
        exact ⟨.outside, .inr (.inr (.inl fun p => advance_comma p hplace))⟩
      · by_cases hn : c = '\n'
        · subst hn
          exact ⟨.outside, .inr (.inr (.inr fun p => advance_lineBreak p hplace))⟩
        · exact ⟨.outside, .inr (.inl fun p => advance_plain p hplace hq hc hn)⟩

/-- Quotes lead inside and outside, and no other character does. -/
theorem advance_place (s : Place × Progress) (c : Char) :
    ((advance s c).1 = .inside) ↔ ¬ (s.1 = .inside ↔ c = '"') := by
  obtain ⟨place, p⟩ := s
  by_cases hq : c = '"'
  · subst hq
    cases place <;> simp [advance]
  · by_cases hplace : place = .inside
    · subst hplace
      simp [advance_inside p hq, hq]
    · have hout : (advance (place, p) c).1 = .outside := by
        by_cases hc : c = ','
        · rw [hc, advance_comma p hplace]
        · by_cases hn : c = '\n'
          · rw [hn, advance_lineBreak p hplace]
          · rw [advance_plain p hplace hq hc hn]
      simp [hout, hq, hplace]

/-- A row is finished by a line break outside quotes, and by nothing else. -/
theorem advance_rows (s : Place × Progress) (c : Char) :
    (advance s c).2.rows.length =
      s.2.rows.length + if c = '\n' ∧ s.1 ≠ .inside then 1 else 0 := by
  obtain ⟨place, p⟩ := s
  by_cases hn : c = '\n'
  · subst hn
    cases place <;> rfl
  · rw [if_neg fun h => hn h.1]
    by_cases hq : c = '"'
    · subst hq
      cases place <;> rfl
    · by_cases hplace : place = .inside
      · rw [hplace, advance_inside p hq]
        rfl
      · by_cases hc : c = ','
        · rw [hc, advance_comma p hplace]
          rfl
        · rw [advance_plain p hplace hq hc hn]
          rfl

end

/-! ## Reading without looking ahead -/

/-- A quote that no other one follows has ended quoting. -/
theorem grid_behindQuote (p : Progress) {cs : List Char} (h : cs.head? ≠ some '"') :
    (cs.foldl advance (.behindQuote, p)).2.grid = (cs.foldl advance (.outside, p)).2.grid := by
  cases cs with
  | nil => rfl
  | cons c cs =>
    have hc : c ≠ '"' := fun hc => h (congrArg some hc)
    have hsame : advance (.behindQuote, p) c = advance (.outside, p) c := by
      unfold advance
      split <;> simp_all
    rw [List.foldl_cons, List.foldl_cons, hsame]

theorem readFrom_eq_grid (quoted : Bool) (p : Progress) (cs : List Char) :
    readFrom quoted p cs =
      (cs.foldl advance (if quoted then .inside else .outside, p)).2.grid := by
  fun_induction readFrom quoted p cs with
  | case1 => rfl
  | case2 p cs ih => exact ih
  | case3 p cs hnext ih =>
    have hhead : cs.head? ≠ some '"' := by
      intro hhead
      obtain ⟨rest, rfl⟩ := List.head?_eq_some_iff.mp hhead
      exact hnext rest rfl
    rw [ih]
    exact (grid_behindQuote p hhead).symm
  | case4 p c cs _ hq ih =>
    have hstep : advance (.inside, p) c = (.inside, p.push c) := advance_inside p hq
    rw [ih, if_pos rfl, List.foldl_cons, hstep]
  | case5 p cs ih => exact ih
  | case6 p cs ih => exact ih
  | case7 p cs ih => exact ih
  | case8 p c cs hq hc hn ih =>
    have hstep : advance (.outside, p) c = (.outside, p.push c) :=
      advance_plain p (by decide) hq hc hn
    rw [ih, if_neg (by decide), List.foldl_cons, hstep]

/-- The whole grid is what a reader has got who has read the whole text. -/
theorem read_eq_grid (text : String) : read text = (scan text.toList).2.grid :=
  readFrom_eq_grid false {} text.toList

/-! ## Cutting a text -/

/-- What is read from some place on does not depend on what was read before: the open cell goes on
with some characters, the open row with some cells, and some rows follow. -/
theorem exists_tail (place : Place) (cs : List Char) :
    ∃ x cells rows, ∀ p : Progress, (cs.foldl advance (place, p)).2.grid =
      p.rows.reverse ++
        (p.cells.reverse ++ String.ofList (p.chars.reverse ++ x) :: cells) :: rows := by
  induction cs generalizing place with
  | nil =>
    refine ⟨[], [], [], fun p => ?_⟩
    simp [Progress.grid, Progress.endRow, Progress.endCell]
  | cons c cs ih =>
    obtain ⟨next, hnext⟩ := advance_cases place c
    obtain ⟨x, cells, rows, htail⟩ := ih next
    rcases hnext with hskip | hpush | hcell | hrow
    · refine ⟨x, cells, rows, fun p => ?_⟩
      rw [List.foldl_cons, hskip, htail]
    · refine ⟨c :: x, cells, rows, fun p => ?_⟩
      rw [List.foldl_cons, hpush, htail]
      simp [Progress.push]
    · refine ⟨[], String.ofList x :: cells, rows, fun p => ?_⟩
      rw [List.foldl_cons, hcell, htail]
      simp [Progress.endCell]
    · refine ⟨[], [], (String.ofList x :: cells) :: rows, fun p => ?_⟩
      rw [List.foldl_cons, hrow, htail]
      simp [Progress.endRow, Progress.endCell]

theorem scan_append (as bs : List Char) : scan (as ++ bs) = bs.foldl advance (scan as) :=
  List.foldl_append

/-- A reader is inside quotes when an odd number of them has been read. -/
theorem scan_place (cs : List Char) : (scan cs).1 = .inside ↔ cs.count '"' % 2 = 1 := by
  have hcount : ∀ s : Place × Progress, (cs.foldl advance s).1 = .inside ↔
      (cs.count '"' + if s.1 = .inside then 1 else 0) % 2 = 1 := by
    induction cs with
    | nil =>
      intro s
      by_cases hs : s.1 = .inside <;> simp [hs]
    | cons c cs ih =>
      intro s
      rw [List.foldl_cons, ih, List.count_cons]
      by_cases hs : s.1 = .inside
      · by_cases hc : c = '"'
        · simp only [hc, advance_place, hs, not_true_eq_false, ↓reduceIte, Nat.add_zero, BEq.rfl]
          omega
        · simp [advance_place, hs, hc]
      · by_cases hc : c = '"'
        · simp [advance_place, hs, hc]
        · simp [advance_place, hs, hc]
  rw [scan, hcount]
  simp

/-- So many rows are finished as line breaks have been read that break a row. -/
theorem scan_rows (cs : List Char) (n : Nat) :
    (scan (cs.take n)).2.rows.length = (List.range n).countP (breaksRow cs) := by
  induction n with
  | zero => rfl
  | succ n ih =>
    rw [List.take_add_one, List.range_succ, List.countP_append, ← ih, scan_append]
    cases hc : cs[n]? with
    | none => simp [breaksRow, hc]
    | some c =>
      have hparity : (scan (cs.take n)).1 ≠ .inside ↔ (cs.take n).count '"' % 2 = 0 := by
        rw [Ne, scan_place]
        omega
      rw [Option.toList_some, List.foldl_cons, List.foldl_nil, advance_rows]
      simp only [hparity, List.countP_singleton, breaksRow, hc, Bool.and_eq_true, beq_iff_eq,
        Option.some.injEq]

theorem Progress.grid_eq (p : Progress) :
    p.grid = p.rows.reverse ++ [p.cells.reverse ++ [String.ofList p.chars.reverse]] := by
  simp [grid, endRow, endCell]

/-! ## Separators -/

section

variable {a b : String}

/-- The grid of a text that goes on with some character. -/
theorem read_append_cons (a b : String) (c : Char) :
    read (a ++ String.singleton c ++ b) =
      (b.toList.foldl advance (advance (scan a.toList) c)).2.grid := by
  rw [read_eq_grid]
  simp [scan_append]

theorem scan_ne_inside (h : a.toList.count '"' % 2 = 0) : (scan a.toList).1 ≠ .inside := by
  rw [Ne, scan_place]
  omega

/-- Behind a cell that has ended, a text is read as from its start. -/
theorem exists_tail_read (text : String) :
    ∃ first more, read text = first :: more ∧ ∀ p : Progress, p.chars = [] →
      (text.toList.foldl advance (.outside, p)).2.grid =
        p.rows.reverse ++ (p.cells.reverse ++ first) :: more := by
  obtain ⟨x, cells, rows, htail⟩ := exists_tail .outside text.toList
  refine ⟨String.ofList x :: cells, rows, ?_, fun p hp => ?_⟩
  · rw [read_eq_grid, scan, htail]
    simp
  · rw [htail, hp]
    simp

theorem read_lineBreak (h : a.toList.count '"' % 2 = 0) :
    read (a ++ "\n" ++ b) = read a ++ read b := by
  obtain ⟨first, more, hb, htail⟩ := exists_tail_read b
  have hstep : advance (scan a.toList) '\n' = (.outside, (scan a.toList).2.endRow) :=
    advance_lineBreak _ (scan_ne_inside h)
  calc read (a ++ "\n" ++ b)
    _ = (b.toList.foldl advance (.outside, (scan a.toList).2.endRow)).2.grid := by
      rw [← hstep]
      exact read_append_cons a b '\n'
    _ = (scan a.toList).2.grid ++ first :: more := by
      rw [htail _ rfl]
      rfl
    _ = read a ++ read b := by rw [← read_eq_grid, hb]

theorem read_comma (h : a.toList.count '"' % 2 = 0) :
    ∃ rows last first more, read a = rows ++ [last] ∧ read b = first :: more ∧
      read (a ++ "," ++ b) = rows ++ (last ++ first) :: more := by
  obtain ⟨first, more, hb, htail⟩ := exists_tail_read b
  generalize hp : (scan a.toList).2 = p
  have hstep : advance (scan a.toList) ',' = (.outside, p.endCell) := by
    rw [← hp]
    exact advance_comma _ (scan_ne_inside h)
  have hab : read (a ++ "," ++ b) = (b.toList.foldl advance (.outside, p.endCell)).2.grid := by
    rw [← hstep]
    exact read_append_cons a b ','
  refine ⟨p.rows.reverse, p.endCell.cells.reverse, first, more, ?_, hb, ?_⟩
  · rw [read_eq_grid, hp, Progress.grid, Progress.endRow, List.reverse_cons]
  · rw [hab, htail _ rfl]
    rfl

/-- A character other than a quote, behind an odd number of quotes, is one of the open cell. -/
theorem read_quoted (h : a.toList.count '"' % 2 = 1) :
    ∃ rows cells x y others more, read a = rows ++ [cells ++ [x]] ∧
      read (a ++ b) = rows ++ (cells ++ (x ++ y) :: others) :: more ∧
      ∀ c, c ≠ '"' →
        read (a ++ String.singleton c ++ b) =
          rows ++ (cells ++ (x ++ String.singleton c ++ y) :: others) :: more := by
  obtain ⟨y, others, more, htail⟩ := exists_tail .inside b.toList
  obtain ⟨p, hp⟩ : ∃ p, scan a.toList = (.inside, p) := ⟨_, Prod.ext ((scan_place _).mpr h) rfl⟩
  have hcell : ∀ cs, String.ofList (cs ++ y) = String.ofList cs ++ String.ofList y := by
    intro cs
    simp
  refine ⟨p.rows.reverse, p.cells.reverse, String.ofList p.chars.reverse, String.ofList y, others,
    more, ?_, ?_, ?_⟩
  · rw [read_eq_grid, hp, Progress.grid_eq]
  · rw [read_eq_grid, String.toList_append, scan_append, hp, htail, hcell]
  · intro c hc
    have hpushed : String.ofList (p.push c).chars.reverse =
        String.ofList p.chars.reverse ++ String.singleton c := by
      apply String.toList_inj.mp
      simp [Progress.push]
    rw [read_append_cons, hp, advance_inside p hc, htail, hcell, hpushed]
    rfl

end

/-- Where an even number of quotes stands before it, a line break puts the rows before it and those
behind it one after the other, and a comma does the same but that the last row before it and the
first behind it make one row. Where the number is odd, either is a character of the cell that is
open, and all else is as without it. So there is one row more than there are line breaks with an even
number of quotes before them. -/
theorem separators_by_quote_parity (a b : String) :
    (a.toList.count '"' % 2 = 0 →
      read (a ++ "\n" ++ b) = read a ++ read b ∧
        ∃ rows last first more, read a = rows ++ [last] ∧ read b = first :: more ∧
          read (a ++ "," ++ b) = rows ++ (last ++ first) :: more) ∧
    (a.toList.count '"' % 2 = 1 →
      ∃ rows cells x y others more, read a = rows ++ [cells ++ [x]] ∧
        read (a ++ b) = rows ++ (cells ++ (x ++ y) :: others) :: more ∧
        ∀ separator, separator = "\n" ∨ separator = "," →
          read (a ++ separator ++ b) =
            rows ++ (cells ++ (x ++ separator ++ y) :: others) :: more) ∧
    (read a).length = 1 + (List.range a.toList.length).countP (breaksRow a.toList) := by
  refine ⟨fun heven => ⟨read_lineBreak heven, read_comma heven⟩, fun hodd => ?_, ?_⟩
  · obtain ⟨rows, cells, x, y, others, more, ha, hab, hinside⟩ := read_quoted (b := b) hodd
    refine ⟨rows, cells, x, y, others, more, ha, hab, ?_⟩
    rintro separator (rfl | rfl)
    · exact hinside '\n' (by decide)
    · exact hinside ',' (by decide)
  · have hrows := scan_rows a.toList a.toList.length
    rw [List.take_length] at hrows
    rw [read_eq_grid, Progress.grid_eq, ← hrows]
    simp [Nat.add_comm]

/-- Quotes in the middle of a cell, and quotes that are never closed. -/
theorem separators_by_quote_parity_misplaced :
    ("x\"y\"".toList.count '"' % 2 = 0 ∧
      read ("x\"y\"" ++ "\n" ++ "\"p,q") = [["xy"], ["p,q"]]) ∧
    ("x,\"y".toList.count '"' % 2 = 1 ∧
      ∃ rows cells x y others more, read "x,\"y" = rows ++ [cells ++ [x]] ∧
        ∀ separator, separator = "\n" ∨ separator = "," →
          read ("x,\"y" ++ separator ++ "z\",\"w") =
            rows ++ (cells ++ (x ++ separator ++ y) :: others) :: more) := by
  obtain ⟨heven, -, -⟩ := separators_by_quote_parity "x\"y\"" "\"p,q"
  obtain ⟨-, hodd, -⟩ := separators_by_quote_parity "x,\"y" "z\",\"w"
  have htwo : "x\"y\"".toList.count '"' % 2 = 0 := by decide
  have hone : "x,\"y".toList.count '"' % 2 = 1 := by decide
  refine ⟨⟨htwo, (heven htwo).1⟩, hone, ?_⟩
  obtain ⟨rows, cells, x, y, others, more, hread, -, hinside⟩ := hodd hone
  exact ⟨rows, cells, x, y, others, more, hread, hinside⟩

end FormulaSheet.Csv
