import FormulaSheet.Printout
import Mathlib.Data.List.Forall2

/-!
Printed tables are rectangles. A bar of a cell follows a backslash, and no bar between columns does;
so the bars between columns can be told apart (`barsFrom`), and they stand at the same places in
every line of a table, whatever its cells hold and however many a row has (`print_rectangular`).
A line is cells between bars (`framed`), and all that counts for the places of the bars is how much
room each column has.
-/

namespace FormulaSheet.Printout

/-! ## Bars of a line -/

/-- The places of the bars that follow no backslash, from a place on; `escaped` tells whether a
backslash stands before it. -/
def barsFrom (place : Nat) (escaped : Bool) : List Char → List Nat
  | [] => []
  | c :: cs =>
    if c = '|' ∧ escaped = false then place :: barsFrom (place + 1) false cs
    else barsFrom (place + 1) (c == '\\') cs

/-- The places of the bars between columns in a line. -/
def bars (line : List Char) : List Nat := barsFrom 0 false line

/-- What stands in a line between two of its places. -/
def between (line : List Char) (a b : Nat) : List Char := (line.drop (a + 1)).take (b - a - 1)

/-- The segments of a line with a bar before each of them and behind the last one. -/
def framed : List (List Char) → List Char
  | [] => ['|']
  | segment :: segments => '|' :: segment ++ framed segments

/-- Where the bars stand around segments of these lengths. -/
def barPlaces (place : Nat) : List Nat → List Nat
  | [] => [place]
  | n :: ns => place :: barPlaces (place + n + 1) ns

/-- A text that has no bar between columns and leaves no backslash for what follows it. -/
def Barless (segment : List Char) : Prop :=
  ∀ place rest,
    barsFrom place false (segment ++ rest) = barsFrom (place + segment.length) false rest

theorem framed_eq (segments : List (List Char)) :
    framed segments = '|' :: segments.flatMap fun segment => segment ++ ['|'] := by
  induction segments with
  | nil => rfl
  | cons segment segments ih => simp [framed, ih]

theorem barsFrom_framed {segments : List (List Char)} (h : ∀ s ∈ segments, Barless s)
    (place : Nat) :
    barsFrom place false (framed segments) = barPlaces place (segments.map List.length) := by
  induction segments generalizing place with
  | nil => rfl
  | cons segment segments ih =>
    have hsegment := h segment (by simp)
    have hrest := ih (fun s hs => h s (by simp [hs])) (place + 1 + segment.length)
    have hbar : barsFrom place false ('|' :: (segment ++ framed segments)) =
        place :: barsFrom (place + 1) false (segment ++ framed segments) := by simp [barsFrom]
    rw [framed, List.cons_append, hbar, hsegment, hrest, List.map_cons, barPlaces,
      Nat.add_right_comm]

theorem length_barPlaces (place : Nat) (ns : List Nat) :
    (barPlaces place ns).length = ns.length + 1 := by
  induction ns generalizing place with
  | nil => rfl
  | cons n ns ih => rw [barPlaces, List.length_cons, ih, List.length_cons]

theorem head?_barPlaces (place : Nat) (ns : List Nat) :
    (barPlaces place ns).head? = some place := by
  cases ns <;> rfl

/-- A line ends with its last bar. -/
theorem getLast?_barPlaces (segments : List (List Char)) (place : Nat) :
    (barPlaces place (segments.map List.length)).getLast? =
      some (place + (framed segments).length - 1) := by
  induction segments generalizing place with
  | nil => simp [barPlaces, framed]
  | cons segment segments ih =>
    have hne : barPlaces (place + segment.length + 1) (segments.map List.length) ≠ [] := by
      cases segments <;> simp [barPlaces]
    rw [List.map_cons, barPlaces, List.getLast?_cons_of_ne_nil hne, ih]
    simp only [framed, List.length_append, List.length_cons]
    congr 1
    omega

/-- Between two bars next to one another stands the segment around which they are. The line may go
on from another one, which is as long as the place of its first bar. -/
theorem between_framed (segments : List (List Char)) (before : List Char) (i : Nat) (a b : Nat)
    (ha : (barPlaces before.length (segments.map List.length))[i]? = some a)
    (hb : (barPlaces before.length (segments.map List.length))[i + 1]? = some b) :
    segments[i]? = some (between (before ++ framed segments) a b) := by
  induction segments generalizing before i with
  | nil => simp [barPlaces] at hb
  | cons segment segments ih =>
    rw [List.map_cons, barPlaces] at ha hb
    cases i with
    | zero =>
      have hnext : (barPlaces (before.length + segment.length + 1)
          (segments.map List.length)).head? = some b := by
        rw [List.head?_eq_getElem?]
        simpa using hb
      rw [head?_barPlaces] at hnext
      obtain rfl : before.length = a := by simpa using ha
      obtain rfl := Option.some.inj hnext
      have hdrop : (before ++ framed (segment :: segments)).drop (before.length + 1) =
          segment ++ framed segments := by
        simp [framed, List.drop_append, List.drop_of_length_le]
      have hroom : before.length + segment.length + 1 - before.length - 1 = segment.length := by
        omega
      rw [between, hdrop, hroom, List.take_left, List.getElem?_cons_zero]
    | succ i =>
      have hlength : (before ++ '|' :: segment).length = before.length + segment.length + 1 := by
        simp [Nat.add_assoc]
      have hsplit : before ++ framed (segment :: segments) =
          before ++ '|' :: segment ++ framed segments := by simp [framed]
      rw [hsplit, List.getElem?_cons_succ]
      apply ih
      · rw [hlength]
        simpa using ha
      · rw [hlength]
        simpa using hb

/-! ## Segments without bars -/

theorem Barless.append {s t : List Char} (hs : Barless s) (ht : Barless t) : Barless (s ++ t) := by
  intro place rest
  rw [List.append_assoc, hs, ht, List.length_append, Nat.add_assoc]

theorem barless_replicate {c : Char} (hbar : c ≠ '|') (hescape : c ≠ '\\') (n : Nat) :
    Barless (List.replicate n c) := by
  intro place rest
  induction n generalizing place with
  | zero => rfl
  | succ n ih =>
    have hstep : barsFrom place false (c :: (List.replicate n c ++ rest)) =
        barsFrom (place + 1) false (List.replicate n c ++ rest) := by
      rw [barsFrom, if_neg (fun h => hbar h.1), beq_false_of_ne hescape]
    rw [List.replicate_succ, List.cons_append, hstep, ih, List.length_cons, Nat.add_right_comm,
      Nat.add_assoc]

/-- What a cell shows for one character. -/
def escapedChar (c : Char) : List Char :=
  if c = '|' then ['\\', '|'] else if c = '\n' then [' '] else if c = '\r' then [] else [c]

theorem escape_eq (text : String) : escape text = text.toList.flatMap escapedChar := by
  unfold escape
  congr 1
  funext c
  unfold escapedChar
  split <;> simp_all

theorem escapedChar_cases (c : Char) :
    escapedChar c = ['\\', '|'] ∨ escapedChar c = [] ∨
      ∃ d, escapedChar c = [d] ∧ d ≠ '|' ∧ d ≠ '\n' := by
  unfold escapedChar
  by_cases hbar : c = '|'
  · exact .inl (if_pos hbar)
  · rw [if_neg hbar]
    by_cases hfeed : c = '\n'
    · exact .inr (.inr ⟨' ', if_pos hfeed, by decide, by decide⟩)
    · rw [if_neg hfeed]
      by_cases hreturn : c = '\r'
      · exact .inr (.inl (if_pos hreturn))
      · exact .inr (.inr ⟨c, if_neg hreturn, hbar, hfeed⟩)

/-- The bars of a cell stand behind backslashes, and a blank ends whatever the cell leaves. -/
theorem barsFrom_escape (text : String) (rest : List Char) (place : Nat) (escaped : Bool) :
    barsFrom place escaped (escape text ++ ' ' :: rest) =
      barsFrom (place + (escape text).length + 1) false rest := by
  rw [escape_eq]
  induction text.toList generalizing place escaped with
  | nil => simp [barsFrom]
  | cons c cs ih =>
    rw [List.flatMap_cons, List.append_assoc, List.length_append]
    obtain hbar | hnone | ⟨d, hplain, hd, -⟩ := escapedChar_cases c
    · -- the backslash is no bar, and the bar follows it
      have hstep : ∀ cs, barsFrom place escaped ('\\' :: '|' :: cs) =
          barsFrom (place + 1 + 1) false cs := fun cs => by simp [barsFrom]
      rw [hbar, List.cons_append, List.singleton_append, hstep, ih]
      congr 1
      simp only [List.length_cons, List.length_nil]
      omega
    · rw [hnone, List.nil_append, ih, List.length_nil, Nat.zero_add]
    · have hstep : ∀ cs, barsFrom place escaped (d :: cs) =
          barsFrom (place + 1) (d == '\\') cs := fun cs => by simp [barsFrom, hd]
      rw [hplain, List.singleton_append, hstep, ih]
      congr 1
      simp only [List.length_cons, List.length_nil]
      omega

theorem newline_not_mem_escape (text : String) : '\n' ∉ escape text := by
  rw [escape_eq]
  intro h
  obtain ⟨c, -, hc⟩ := List.mem_flatMap.mp h
  obtain hbar | hnone | ⟨d, hplain, -, hd⟩ := escapedChar_cases c
  · simp [hbar] at hc
  · simp [hnone] at hc
  · rw [hplain, List.mem_singleton] at hc
    exact hd hc.symm

/-! ## Lines as segments -/

/-- A cell between its bars. -/
def cellSegment (width : Nat) (cell : List Char) : List Char :=
  ' ' :: cell ++ List.replicate (width - cell.length + 1) ' '

theorem line_eq (widths : List Nat) (cells : List (List Char)) :
    line widths cells =
      framed (widths.zipIdx.map fun w => cellSegment w.1 (cells.getD w.2 [])) := by
  rw [framed_eq, line, List.flatMap_map]
  congr 2
  funext w
  simp [boxed, cellSegment, List.replicate_succ']

theorem rule_eq (widths : List Nat) :
    rule widths = framed (widths.map fun width => List.replicate (width + 2) '-') := by
  rw [framed_eq, rule, List.flatMap_map]

theorem length_cellSegment {width : Nat} {cell : List Char} (h : cell.length ≤ width) :
    (cellSegment width cell).length = width + 2 := by
  simp only [cellSegment, List.cons_append, List.length_cons, List.length_append,
    List.length_replicate]
  omega

theorem barless_cellSegment (width : Nat) (text : String) :
    Barless (cellSegment width (escape text)) := by
  have hblanks : ∀ n, Barless (List.replicate n ' ') :=
    barless_replicate (by decide) (by decide)
  have hcell : Barless (escape text ++ [' ']) := by
    intro place rest
    rw [List.append_assoc, List.singleton_append, barsFrom_escape, List.length_append]
    rfl
  have hsplit : cellSegment width (escape text) = List.replicate 1 ' ' ++ (escape text ++ [' ']) ++
      List.replicate (width - (escape text).length) ' ' := by
    simp [cellSegment, List.replicate_succ]
  rw [hsplit]
  exact ((hblanks 1).append hcell).append (hblanks _)

theorem newline_not_mem_framed {segments : List (List Char)} (h : ∀ s ∈ segments, '\n' ∉ s) :
    '\n' ∉ framed segments := by
  induction segments with
  | nil => decide
  | cons segment segments ih =>
    have hsegment := h segment (by simp)
    have hrest := ih fun s hs => h s (by simp [hs])
    simp [framed, hsegment, hrest]

/-! ## Lines under one another -/

/-- Columns are wide enough for some cells, each the text of one. -/
structure Fits (widths : List Nat) (cells : List (List Char)) : Prop where
  escaped : ∀ i, ∃ text, cells.getD i [] = escape text
  fits : ∀ i width, widths[i]? = some width → (cells.getD i []).length ≤ width

/-- A line of cells: between the bars at `places` each cell stands behind one blank and before as
many as fill its column, and a cell that is missing is empty. -/
structure IsRow (places : List Nat) (cells : List (List Char)) (line : List Char) : Prop where
  bars_eq : bars line = places
  cell : ∀ i a b, places[i]? = some a → places[i + 1]? = some b →
    ∃ n, between line a b = ' ' :: cells.getD i [] ++ List.replicate (n + 1) ' '

/-- A rule: nothing but dashes between the bars at `places`. -/
structure IsRule (places : List Nat) (line : List Char) : Prop where
  bars_eq : bars line = places
  dashes : ∀ i a b, places[i]? = some a → places[i + 1]? = some b →
    ∀ c ∈ between line a b, c = '-'

/-- The places of the bars in a table with columns of these widths. -/
def columnBars (widths : List Nat) : List Nat := barPlaces 0 (widths.map (· + 2))

variable {widths : List Nat} {cells : List (List Char)}

theorem map_length_cellSegments (h : Fits widths cells) :
    (widths.zipIdx.map fun w => cellSegment w.1 (cells.getD w.2 [])).map List.length =
      widths.map (· + 2) := by
  refine List.ext_getElem? fun i => ?_
  rw [List.getElem?_map, List.getElem?_map, List.getElem?_map, List.getElem?_zipIdx]
  cases hw : widths[i]? with
  | none => rfl
  | some width =>
    simp only [Option.map_some, Nat.zero_add]
    rw [length_cellSegment (h.fits i width hw)]

theorem map_length_dashes (widths : List Nat) :
    (widths.map fun width => List.replicate (width + 2) '-').map List.length =
      widths.map (· + 2) := by
  simp [Function.comp_def]

theorem isRow_line (h : Fits widths cells) :
    IsRow (columnBars widths) cells (line widths cells) := by
  have hlengths := map_length_cellSegments h
  constructor
  · rw [bars, line_eq, barsFrom_framed, hlengths, columnBars]
    intro s hs
    obtain ⟨w, -, rfl⟩ := List.mem_map.mp hs
    obtain ⟨text, htext⟩ := h.escaped w.2
    rw [htext]
    exact barless_cellSegment w.1 text
  · intro i a b ha hb
    rw [columnBars, ← hlengths] at ha hb
    have hsegment := between_framed _ [] i a b ha hb
    rw [List.nil_append, ← line_eq, List.getElem?_map, List.getElem?_zipIdx] at hsegment
    cases hw : widths[i]? with
    | none => simp [hw] at hsegment
    | some width =>
      rw [hw, Option.map_some, Option.map_some, Nat.zero_add] at hsegment
      exact ⟨_, (Option.some.inj hsegment).symm⟩

theorem isRule_rule (widths : List Nat) : IsRule (columnBars widths) (rule widths) := by
  have hlengths := map_length_dashes widths
  constructor
  · rw [bars, rule_eq, barsFrom_framed, hlengths, columnBars]
    intro s hs
    obtain ⟨width, -, rfl⟩ := List.mem_map.mp hs
    exact barless_replicate (by decide) (by decide) _
  · intro i a b ha hb
    rw [columnBars, ← hlengths] at ha hb
    have hsegment := between_framed _ [] i a b ha hb
    rw [List.nil_append, ← rule_eq, List.getElem?_map] at hsegment
    obtain ⟨width, -, hdashes⟩ := Option.map_eq_some_iff.mp hsegment
    intro c hc
    rw [← hdashes] at hc
    exact (List.mem_replicate.mp hc).2

/-- How many characters a line has is seen from its last bar. -/
theorem length_framed {segments : List (List Char)} {last : Nat}
    (h : (barPlaces 0 (segments.map List.length)).getLast? = some last) :
    (framed segments).length = last + 1 := by
  have hpos : 0 < (framed segments).length := by cases segments <;> simp [framed]
  rw [getLast?_barPlaces] at h
  have hlast := Option.some.inj h
  omega

theorem length_line (h : Fits widths cells) {last : Nat}
    (hlast : (columnBars widths).getLast? = some last) : (line widths cells).length = last + 1 := by
  rw [columnBars, ← map_length_cellSegments h] at hlast
  rw [line_eq]
  exact length_framed hlast

theorem length_rule {last : Nat} (hlast : (columnBars widths).getLast? = some last) :
    (rule widths).length = last + 1 := by
  rw [columnBars, ← map_length_dashes widths] at hlast
  rw [rule_eq]
  exact length_framed hlast

theorem newline_not_mem_line (h : Fits widths cells) : '\n' ∉ line widths cells := by
  rw [line_eq]
  refine newline_not_mem_framed fun s hs => ?_
  obtain ⟨w, -, rfl⟩ := List.mem_map.mp hs
  obtain ⟨text, htext⟩ := h.escaped w.2
  rw [htext]
  simp [cellSegment, newline_not_mem_escape text]

theorem newline_not_mem_rule (widths : List Nat) : '\n' ∉ rule widths := by
  rw [rule_eq]
  refine newline_not_mem_framed fun s hs => ?_
  obtain ⟨width, -, rfl⟩ := List.mem_map.mp hs
  simp

/-! ## Widths -/

theorem le_foldl_max (f : List (List Char) → Nat) (rows : List (List (List Char))) (least : Nat) :
    least ≤ rows.foldl (fun width row => max width (f row)) least ∧
      ∀ row ∈ rows, f row ≤ rows.foldl (fun width row => max width (f row)) least := by
  induction rows generalizing least with
  | nil => simp
  | cons first rows ih =>
    obtain ⟨hleast, hrows⟩ := ih (max least (f first))
    rw [List.foldl_cons]
    refine ⟨by omega, fun row hrow => ?_⟩
    rcases List.mem_cons.mp hrow with rfl | hrow
    · omega
    · exact hrows row hrow

theorem getElem?_widths (header : List (List Char)) (rows : List (List (List Char))) (i : Nat) :
    (Printout.widths header rows)[i]? = header[i]?.map fun title =>
      rows.foldl (fun width row => max width (row.getD i []).length) (max 1 title.length) := by
  rw [Printout.widths, List.getElem?_map, List.getElem?_zipIdx, Option.map_map]
  simp [Function.comp_def]

theorem escaped_of_forall (h : ∀ cell ∈ cells, ∃ text, cell = escape text) (i : Nat) :
    ∃ text, cells.getD i [] = escape text := by
  rw [List.getD_eq_getElem?_getD]
  cases hi : cells[i]? with
  | none => exact ⟨"", rfl⟩
  | some cell => exact h cell (List.mem_of_getElem? hi)

theorem fits_header {header : List (List Char)} (rows : List (List (List Char)))
    (h : ∀ cell ∈ header, ∃ text, cell = escape text) :
    Fits (Printout.widths header rows) header := by
  refine ⟨escaped_of_forall h, fun i width hwidth => ?_⟩
  rw [getElem?_widths] at hwidth
  obtain ⟨title, htitle, rfl⟩ := Option.map_eq_some_iff.mp hwidth
  have hleast := (le_foldl_max (fun row => (row.getD i []).length) rows (max 1 title.length)).1
  rw [List.getD_eq_getElem?_getD, htitle, Option.getD_some]
  omega

theorem fits_row {header : List (List Char)} {rows : List (List (List Char))} (hmem : cells ∈ rows)
    (h : ∀ cell ∈ cells, ∃ text, cell = escape text) :
    Fits (Printout.widths header rows) cells := by
  refine ⟨escaped_of_forall h, fun i width hwidth => ?_⟩
  rw [getElem?_widths] at hwidth
  obtain ⟨title, -, rfl⟩ := Option.map_eq_some_iff.mp hwidth
  exact (le_foldl_max (fun row => (row.getD i []).length) rows _).2 cells hmem

/-! ## The printed table -/

theorem cellChars_eq (mode : Mode) (cell : ShownCell) :
    ∃ text, cellChars mode cell = escape text := by
  cases mode with
  | display => exact ⟨cell.display, rfl⟩
  | raw => exact ⟨cell.raw, rfl⟩

theorem mem_map_cellChars {mode : Mode} {shown : List ShownCell} :
    ∀ cell ∈ shown.map (cellChars mode), ∃ text, cell = escape text := by
  intro cell hcell
  obtain ⟨c, -, rfl⟩ := List.mem_map.mp hcell
  exact cellChars_eq mode c

/-- Lines that each end with a line feed are the lines of their text, and nothing follows the last
line feed. -/
theorem splitOn_lines {ls : List (List Char)} (h : ∀ l ∈ ls, '\n' ∉ l) :
    (ls.flatMap fun l => l ++ ['\n']).splitOn '\n' = ls ++ [[]] := by
  have hjoined : (ls.flatMap fun l => l ++ ['\n']) = ['\n'].intercalate (ls ++ [[]]) := by
    clear h
    induction ls with
    | nil => rfl
    | cons l ls ih =>
      rw [List.flatMap_cons, ih, List.cons_append, List.intercalate_cons_of_ne_nil (by simp)]
  rw [hjoined]
  refine List.splitOn_intercalate '\n' (fun l hl => ?_) (by simp)
  rcases List.mem_append.mp hl with hl | hl
  · exact h l hl
  · rw [List.mem_singleton.mp hl]
    exact List.not_mem_nil

/-- The footer, if it shows anything. -/
def shownFooters (mode : Mode) (t : ShownTable) : List (List (List Char)) :=
  if (t.footer.map (cellChars mode)).all List.isEmpty then [] else [t.footer.map (cellChars mode)]

/-- The widths of the columns of a printed table. -/
def columnWidths (mode : Mode) (t : ShownTable) : List Nat :=
  Printout.widths (t.columns.map escape)
    ((t.rows.map fun row => row.cells.map (cellChars mode)) ++ shownFooters mode t)

theorem lines_eq (mode : Mode) (t : ShownTable) :
    lines mode t =
      line (columnWidths mode t) (t.columns.map escape) :: rule (columnWidths mode t) ::
      t.rows.map (fun row => line (columnWidths mode t) (row.cells.map (cellChars mode))) ++
      (shownFooters mode t).flatMap fun footer =>
        [rule (columnWidths mode t), line (columnWidths mode t) footer] := by
  have hbody : t.rows.map (fun row => line (columnWidths mode t) (row.cells.map (cellChars mode))) =
      (t.rows.map fun row => row.cells.map (cellChars mode)).map (line (columnWidths mode t)) := by
    simp [Function.comp_def]
  rw [hbody]
  rfl

theorem shownFooters_cases (mode : Mode) (t : ShownTable) :
    (∀ cell ∈ t.footer, cellChars mode cell = []) ∧ shownFooters mode t = [] ∨
      (∃ cell ∈ t.footer, cellChars mode cell ≠ []) ∧
        shownFooters mode t = [t.footer.map (cellChars mode)] := by
  unfold shownFooters
  by_cases h : (t.footer.map (cellChars mode)).all List.isEmpty = true
  · rw [if_pos h]
    refine .inl ⟨fun cell hcell => ?_, rfl⟩
    exact List.isEmpty_iff.mp (List.all_eq_true.mp h _ (List.mem_map_of_mem hcell))
  · rw [if_neg h]
    refine .inr ⟨?_, rfl⟩
    by_contra hnone
    refine h (List.all_eq_true.mpr fun cell hcell => ?_)
    obtain ⟨c, hc, rfl⟩ := List.mem_map.mp hcell
    by_contra hshown
    exact hnone ⟨c, hc, fun hempty => hshown (List.isEmpty_iff.mpr hempty)⟩

section

variable (mode : Mode) (t : ShownTable)

theorem fits_columns : Fits (columnWidths mode t) (t.columns.map escape) := by
  refine fits_header _ fun cell hcell => ?_
  obtain ⟨text, -, rfl⟩ := List.mem_map.mp hcell
  exact ⟨text, rfl⟩

theorem fits_body {row : ShownRow} (h : row ∈ t.rows) :
    Fits (columnWidths mode t) (row.cells.map (cellChars mode)) :=
  fits_row (List.mem_append_left _ (List.mem_map_of_mem h)) mem_map_cellChars

theorem fits_footer {footer : List (List Char)} (h : footer ∈ shownFooters mode t) :
    Fits (columnWidths mode t) footer := by
  refine fits_row (List.mem_append_right _ h) ?_
  obtain ⟨-, hnone⟩ | ⟨-, hsome⟩ := shownFooters_cases mode t
  · rw [hnone] at h
    cases h
  · rw [hsome, List.mem_singleton] at h
    rw [h]
    exact mem_map_cellChars

/-- Every line of a printed table is a rule or a line of cells that fit. -/
theorem mem_lines_cases {l : List Char} (h : l ∈ lines mode t) :
    l = rule (columnWidths mode t) ∨
      ∃ cells, Fits (columnWidths mode t) cells ∧ l = line (columnWidths mode t) cells := by
  rw [lines_eq, List.mem_append, List.mem_cons, List.mem_cons] at h
  obtain (rfl | rfl | hrow) | hfooter := h
  · exact .inr ⟨_, fits_columns mode t, rfl⟩
  · exact .inl rfl
  · obtain ⟨row, hmem, rfl⟩ := List.mem_map.mp hrow
    exact .inr ⟨_, fits_body mode t hmem, rfl⟩
  · obtain ⟨footer, hmem, hl⟩ := List.mem_flatMap.mp hfooter
    rcases List.mem_cons.mp hl with rfl | hl
    · exact .inl rfl
    · exact .inr ⟨footer, fits_footer mode t hmem, List.mem_singleton.mp hl⟩

end

/-- A printed table is a rectangle. Its lines are the header, a rule, one line for each row and, if
some cell of the footer shows anything, another rule and the footer. They all have as many
characters, and between columns their bars stand at the same places, from the first character to
the last. In between stands what a cell shows, behind one blank and before those that fill its
column; a row with too few cells has empty ones there. -/
theorem print_rectangular (mode : Mode) (t : ShownTable) :
    ∃ (places : List Nat) (last : Nat) (header ruler : List Char) (body footer : List (List Char)),
      (print mode t).toList.splitOn '\n' = header :: ruler :: body ++ footer ++ [[]] ∧
      (∀ l ∈ header :: ruler :: body ++ footer, l.length = last + 1) ∧
      places.length = t.columns.length + 1 ∧ places.head? = some 0 ∧ places.getLast? = some last ∧
      IsRow places (t.columns.map escape) header ∧ IsRule places ruler ∧
      List.Forall₂ (fun row l => IsRow places (row.cells.map (cellChars mode)) l) t.rows body ∧
      ((∀ cell ∈ t.footer, cellChars mode cell = []) ∧ footer = [] ∨
        (∃ cell ∈ t.footer, cellChars mode cell ≠ []) ∧ ∃ ruler' l, footer = [ruler', l] ∧
          IsRule places ruler' ∧ IsRow places (t.footer.map (cellChars mode)) l) := by
  obtain ⟨last, hlast⟩ : ∃ last, (columnBars (columnWidths mode t)).getLast? = some last := by
    have hne : columnBars (columnWidths mode t) ≠ [] := by
      intro h
      have hlength := length_barPlaces 0 ((columnWidths mode t).map (· + 2))
      rw [← columnBars, h] at hlength
      cases hlength
    exact ⟨_, List.getLast?_eq_getLast_of_ne_nil hne⟩
  have hcolumns : (columnWidths mode t).length = t.columns.length := by
    simp [columnWidths, Printout.widths]
  refine ⟨columnBars (columnWidths mode t), last, line (columnWidths mode t) (t.columns.map escape),
    rule (columnWidths mode t),
    t.rows.map fun row => line (columnWidths mode t) (row.cells.map (cellChars mode)),
    (shownFooters mode t).flatMap fun footer =>
      [rule (columnWidths mode t), line (columnWidths mode t) footer],
    ?_, ?_, ?_, head?_barPlaces 0 _, hlast, isRow_line (fits_columns mode t), isRule_rule _, ?_, ?_⟩
  · rw [print, String.toList_ofList, splitOn_lines, lines_eq]
    intro l hl
    obtain rfl | ⟨cells, hfits, rfl⟩ := mem_lines_cases mode t hl
    · exact newline_not_mem_rule _
    · exact newline_not_mem_line hfits
  · intro l hl
    rw [← lines_eq] at hl
    obtain rfl | ⟨cells, hfits, rfl⟩ := mem_lines_cases mode t hl
    · exact length_rule hlast
    · exact length_line hfits hlast
  · rw [columnBars, length_barPlaces, List.length_map, hcolumns]
  · rw [List.forall₂_map_right_iff, List.forall₂_same]
    exact fun row hrow => isRow_line (fits_body mode t hrow)
  · obtain ⟨hempty, hnone⟩ | ⟨hshown, hsome⟩ := shownFooters_cases mode t
    · exact .inl ⟨hempty, by rw [hnone, List.flatMap_nil]⟩
    · refine .inr ⟨hshown, _, _, ?_, isRule_rule _, isRow_line (fits_footer mode t ?_)⟩
      · rw [hsome, List.flatMap_singleton]
      · rw [hsome]
        exact List.mem_singleton_self _

example : print .display
    { columns := ["id", "A"], rows := [⟨0, [⟨"1", "1", .plain⟩, ⟨"x|y", "x|y", .plain⟩]⟩] } =
      "| id | A    |\n|----|------|\n| 1  | x\\|y |\n" := by decide +kernel

end FormulaSheet.Printout
