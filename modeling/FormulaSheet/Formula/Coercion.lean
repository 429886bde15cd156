import FormulaSheet.Calendar.Pattern
import FormulaSheet.Formula.CellValue

/-!
Reading values of scripts as others: as numbers, as truth values, as texts and as dates; and
equality up to such readings.
-/

namespace FormulaSheet.Script.Value

/-- Milliseconds in a day. -/
def dayLength : Int := 86400000

mutual

/-- The number that a value counts as: blank text and unit are zero, truth values are zero and
one, a date is its milliseconds since the epoch, a list of one item counts as that item, and what
has no number is not a number. -/
def number : Value → Float
  | .unit => 0.0
  | .bool b => if b then 1.0 else 0.0
  | .int n => Float.ofInt n
  | .float x => x
  | .char c => Number.ofText c.toString
  | .text s => Number.ofText s
  | .date d => Float.ofInt (d.dayNumber * dayLength)
  | .array ⟨items⟩ => numberOfItems items
  | _ => Number.nan

def numberOfItems : List Value → Float
  | [] => 0.0
  | [v] => v.number
  | _ => Number.nan

end

/-- Whether a condition holds on a value: not on unit, false, zero, not-a-number and empty text. -/
def truthy : Value → Bool
  | .unit => false
  | .bool b => b
  | .int n => n != 0
  | .float x => x != 0.0 && !x.isNaN
  | .text s => !s.isEmpty
  | _ => true

/-- The text that a cell with the value shows. -/
def shown (v : Value) : String := (CellValue.ofScript #[] v).display

/-- The number at the start of the shown text. -/
def leadingNumber (v : Value) : Float := Number.ofLeading v.shown

/-- The date that a value is or that its text names. -/
def date? (today : Date) : Value → Option Date
  | .date d => some d
  | .text s => Date.ofText? today s
  | _ => none

/-- Numbers are equal as numbers, unit only equals itself, and all else is equal when it is shown
alike. -/
def looselyEqual (a b : Value) : Bool :=
  match CellValue.ofScript #[] a, CellValue.ofScript #[] b with
  | .number x, .number y => x == y
  | .null, .null => true
  | .null, _ => false
  | _, .null => false
  | x, y => x.display == y.display

end FormulaSheet.Script.Value
