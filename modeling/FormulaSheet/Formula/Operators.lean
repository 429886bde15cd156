import FormulaSheet.Formula.Coercion
import FormulaSheet.Script.Evaluator

/-!
What formulas make of operators: whole numbers are divided with a fraction, text counts as a number
next to numbers, and days are compared and subtracted.
-/

namespace FormulaSheet.Formula

open Script

def ordered? (op : String) (x y : Float) : Option Value :=
  match op with
  | "<" => some (.bool (x < y))
  | "<=" => some (.bool (x ≤ y))
  | ">" => some (.bool (y < x))
  | ">=" => some (.bool (y ≤ x))
  | "==" => some (.bool (x == y))
  | "!=" => some (.bool (x != y))
  | _ => none

def arithmetic? (op : String) (x y : Float) : Option Value :=
  match op with
  | "-" => some (.float (x - y))
  | "*" => some (.float (x * y))
  | "/" => some (.float (x / y))
  | _ => none

/-- Text next to a number. -/
def mixed? (op : String) (x y : Float) : Option Value :=
  match arithmetic? op x y with
  | some v => some v
  | none => ordered? op x y

/-- Days are ordered by the calendar; their difference is in milliseconds. -/
def onDates? (op : String) (a b : Date) : Option Value :=
  match op with
  | "==" => some (.bool (decide (a = b)))
  | "!=" => some (.bool (decide (a ≠ b)))
  | "<" => some (.bool (a.before b))
  | "<=" => some (.bool !(b.before a))
  | ">" => some (.bool (b.before a))
  | ">=" => some (.bool !(a.before b))
  | "-" => some (.float (Float.ofInt ((a.dayNumber - b.dayNumber) * Value.dayLength)))
  | _ => none

/-- Binary operators that formulas give a meaning of their own. -/
def overload (op : String) (a b : Value) : Option Value :=
  match a, b with
  | .int _, .int _ => if op = "/" then arithmetic? op a.number b.number else none
  | .text _, .text _ => arithmetic? op a.number b.number
  | .text _, .int _ | .text _, .float _ | .int _, .text _ | .float _, .text _ =>
    mixed? op a.number b.number
  | .date d, .date e => onDates? op d e
  | _, _ => none

end FormulaSheet.Formula
