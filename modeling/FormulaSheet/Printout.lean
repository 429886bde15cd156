import FormulaSheet.Table.Shown

/-!
Printed tables. Cells stand between bars, and every column is as wide as its widest cell. A rule
follows the header, and another one comes before the footer, which is left out when it is empty.
-/

namespace FormulaSheet.Printout

/-- Which text of a cell is printed. -/
inductive Mode where
  | display
  | raw
  deriving DecidableEq, Repr

/-- A text on one line: bars stand after a backslash, line feeds become spaces and carriage
returns are dropped. -/
def escape (text : String) : List Char :=
  text.toList.flatMap fun c =>
    match c with
    | '|' => ['\\', '|']
    | '\n' => [' ']
    | '\r' => []
    | c => [c]

def cellChars (mode : Mode) (cell : ShownCell) : List Char :=
  match mode with
  | .display => escape cell.display
  | .raw => escape cell.raw

/-- A cell filled up to a width, with the bar after it. -/
def boxed (width : Nat) (cell : List Char) : List Char :=
  ' ' :: cell ++ List.replicate (width - cell.length) ' ' ++ [' ', '|']

/-- A line of cells; those that are missing are empty. -/
def line (widths : List Nat) (cells : List (List Char)) : List Char :=
  '|' :: widths.zipIdx.flatMap fun (width, i) => boxed width (cells.getD i [])

def rule (widths : List Nat) : List Char :=
  '|' :: widths.flatMap fun width => List.replicate (width + 2) '-' ++ ['|']

/-- The width of each column of the header over some more rows; no column is narrower than one
character. -/
def widths (header : List (List Char)) (rows : List (List (List Char))) : List Nat :=
  header.zipIdx.map fun (title, i) =>
    rows.foldl (fun width row => max width (row.getD i []).length) (max 1 title.length)

/-- The lines of a printed table. -/
def lines (mode : Mode) (t : ShownTable) : List (List Char) :=
  let header := t.columns.map escape
  let body := t.rows.map fun row => row.cells.map (cellChars mode)
  let footer := t.footer.map (cellChars mode)
  let footers := if footer.all List.isEmpty then [] else [footer]
  let widths := widths header (body ++ footers)
  line widths header :: rule widths :: body.map (line widths) ++
    footers.flatMap fun footer => [rule widths, line widths footer]

/-- A printed table. -/
def print (mode : Mode) (t : ShownTable) : String :=
  String.ofList ((lines mode t).flatMap fun cs => cs ++ ['\n'])

end FormulaSheet.Printout
