/-!
What can go wrong while a table is edited, stored or read, and the message for each cause.
-/

namespace FormulaSheet

/-- The two directions in which a cell is addressed. -/
inductive Axis where
  | row
  | column
  deriving DecidableEq, Repr

def Axis.name : Axis → String
  | .row => "row"
  | .column => "column"

inductive Error where
  | io (reason : String)
  | json (reason : String)
  | notFound (id : String)
  | fileTooLarge (path : String) (size limit : Nat)
  | nothingToUndo
  | nothingToRedo
  | rowNotEmpty
  | tableTooSmall
  | columnNotEmpty
  | outOfBounds (axis : Axis) (index length : Nat)
  | cancelled
  | notAButton (row column : Nat)
  | button (reason : String)
  deriving DecidableEq, Repr

def Error.message : Error → String
  | .io reason => s!"IO error: {reason}"
  | .json reason => s!"JSON error: {reason}"
  | .notFound id => s!"Table not found: {id}"
  | .fileTooLarge path size limit =>
    s!"Refusing to read {path}: file too large ({size} bytes, max {limit})"
  | .nothingToUndo => "Nothing to undo"
  | .nothingToRedo => "Nothing to redo"
  | .rowNotEmpty => "Row is not empty"
  | .tableTooSmall => "Table must keep at least one body row"
  | .columnNotEmpty => "Column is not empty"
  | .outOfBounds axis index length =>
    s!"{axis.name} index {index} out of bounds (len {length})"
  | .cancelled => "Save cancelled"
  | .notAButton row column => s!"Cell at row {row}, column {column} is not a button"
  | .button reason => s!"Button callback failed: {reason}"

end FormulaSheet
