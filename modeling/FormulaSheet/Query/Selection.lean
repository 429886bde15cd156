import FormulaSheet.Formula.Evaluation
import FormulaSheet.Query.Basic
import FormulaSheet.Query.NaturalOrder

/-!
What a query selects. Columns are found when case is ignored and are read as formulas read them;
clauses on unknown columns say nothing. Rows that no sort key tells apart stay in their order.
-/

namespace FormulaSheet.Query

/-- A selected row, with its place among all rows. -/
structure Row where
  index : Nat
  fields : Fields
  deriving DecidableEq, Repr

/-- The selected rows in order, and the tables asked for on the way, the latest first. -/
structure Selection where
  rows : List Row
  asked : List String := []

def Criterion.isMet (text : String) : Criterion → Bool
  | .text wanted => sameName text wanted
  | .pattern _ _ matcher => matcher.isIn text

def Filter.keeps (f : Filter) (text : String) : Bool := f.criterion.isMet text != f.negated

/-- The text of a column in the row of a context, empty where its formula fails, and the tables
asked for. -/
def textOf (c : Context) (column : String) : String × List String :=
  let (value, asked) := Formula.propertyWith Formula.evaluate c column
  match value with
  | .ok v => (v.display, asked)
  | .error _ => ("", asked)

/-- The filters on columns that there are, with the names of these. -/
def knownFilters (q : Query) (c : Context) : List (String × Filter) :=
  q.filters.filterMap fun f => (c.findColumn? f.column).map fun column => (column, f)

/-- The sort keys on columns that there are, with the names of these. -/
def knownSorts (q : Query) (c : Context) : List (String × Direction) :=
  q.sorts.filterMap fun k => (c.findColumn? k.column).map fun column => (column, k.direction)

/-- Whether a row meets all filters; none is looked at after one that it does not meet. -/
def keeps (c : Context) : List (String × Filter) → Bool × List String
  | [] => (true, [])
  | (column, f) :: rest =>
    let (text, asked) := textOf c column
    if f.keeps text then
      let (kept, later) := keeps c rest
      (kept, later ++ asked)
    else (false, asked)

/-- The texts that a row is sorted by. -/
def sortTexts (c : Context) (sorts : List (String × Direction)) : List (String × List String) :=
  sorts.map fun s => textOf c s.1

def Direction.apply : Direction → Ordering → Ordering
  | .ascending, o => o
  | .descending, o => o.swap

/-- Compares the texts that two rows are sorted by. -/
def compareTexts : List Direction → List String → List String → Ordering
  | d :: ds, a :: as, b :: bs => (d.apply (NaturalOrder.compare a b)).then (compareTexts ds as bs)
  | _, _, _ => .eq

/-- Whether one row stands before another, or is the same. -/
def precedes (directions : List Direction) (a b : Row × List String) : Bool :=
  ((compareTexts directions a.2 b.2).then (compare a.1.index b.1.index)).isLE

/-- A row, if it is kept, with the texts that it is sorted by; and the tables asked for. -/
def examine (q : Query) (c : Context) (index : Nat) (fields : Fields) :
    Option (Row × List String) × List String :=
  let place := c.withRow index fields
  match keeps place (q.knownFilters c) with
  | (true, asked) =>
    let texts := sortTexts place (q.knownSorts c)
    (some (⟨index, fields⟩, texts.map Prod.fst), (texts.reverse.flatMap Prod.snd) ++ asked)
  | (false, asked) => (none, asked)

/-- Selects from rows; formulas in them see the rows of the context. -/
def selectFrom (q : Query) (rows : List Fields) (c : Context) : Selection :=
  let examined := rows.zipIdx.map fun (fields, index) => q.examine c index fields
  let kept := examined.filterMap Prod.fst
  let directions := (q.knownSorts c).map Prod.snd
  { rows := (kept.mergeSort (precedes directions)).map Prod.fst
    asked := examined.reverse.flatMap Prod.snd }

/-- Selects from the rows of a context. -/
def select (q : Query) (c : Context) : Selection := q.selectFrom c.rows c

end FormulaSheet.Query
