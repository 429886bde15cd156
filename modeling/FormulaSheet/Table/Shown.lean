/-!
Tables as they are shown: every cell with its own text and with the text that it shows.
-/

namespace FormulaSheet

inductive CellKind where
  /-- A text that is no formula. -/
  | plain
  | value
  /-- A formula that failed. -/
  | error
  | button
  deriving DecidableEq, Repr

structure ShownCell where
  raw : String
  display : String
  kind : CellKind := .plain
  deriving DecidableEq, Repr

/-- A row with its place in the body of its table. -/
structure ShownRow where
  index : Nat
  cells : List ShownCell
  deriving DecidableEq, Repr

structure ShownTable where
  columns : List String := []
  rows : List ShownRow := []
  footer : List ShownCell := []
  deriving DecidableEq, Repr

end FormulaSheet
