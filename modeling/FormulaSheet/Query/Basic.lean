import FormulaSheet.Pattern.Reader

/-!
Queries. A query keeps the rows that meet all of its filters and sorts them by its sort keys; it is
written as a line of clauses, the filters first.
-/

namespace FormulaSheet

namespace Query

inductive Direction where
  | ascending
  | descending
  deriving DecidableEq, Repr

/-- What a filter asks of a text. -/
inductive Criterion where
  /-- The text is this one when case is ignored. -/
  | text (wanted : String)
  /-- A part of the text matches a pattern; the pattern is also kept as it was written. -/
  | pattern (source flags : String) (matcher : Pattern)
  deriving DecidableEq, Repr

structure Filter where
  column : String
  criterion : Criterion
  /-- Keeps the rows that do not meet the criterion. -/
  negated : Bool := false
  deriving DecidableEq, Repr

structure SortKey where
  column : String
  direction : Direction
  deriving DecidableEq, Repr

end Query

/-- Filters, and sort keys with the most important one first. -/
structure Query where
  filters : List Query.Filter := []
  sorts : List Query.SortKey := []
  deriving DecidableEq, Repr

namespace Query

def isEmpty (q : Query) : Bool := q.filters.isEmpty && q.sorts.isEmpty

/-! ## Written form -/

/-- A text between quotes, where quotes and backslashes stand after a backslash. -/
def quoted (text : String) : List Char :=
  '"' :: text.toList.flatMap (fun c => if c = '"' ∨ c = '\\' then ['\\', c] else [c]) ++ ['"']

/-- A pattern between slashes, where its own slashes stand after a backslash. -/
def slashed (source : String) : List Char :=
  '/' :: source.toList.flatMap (fun c => if c = '/' then ['\\', c] else [c]) ++ ['/']

def Direction.chars : Direction → List Char
  | .ascending => "ASC".toList
  | .descending => "DESC".toList

def Criterion.chars : Criterion → List Char
  | .text wanted => quoted wanted
  | .pattern source flags _ => slashed source ++ flags.toList

def Filter.chars (f : Filter) : List Char :=
  (if f.negated then ['-'] else []) ++ quoted f.column ++ ':' :: f.criterion.chars

def SortKey.chars (k : SortKey) : List Char := quoted k.column ++ ':' :: k.direction.chars

/-- A query as a line of clauses. -/
def toSpec (q : Query) : String :=
  String.ofList (List.intercalate [' '] (q.filters.map Filter.chars ++ q.sorts.map SortKey.chars))

end Query

end FormulaSheet
