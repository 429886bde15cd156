import FormulaSheet.Formula.Coercion
import FormulaSheet.Script.Run

/-!
The namespaces of formulas: `Math` with functions of numbers, where any value counts as one, and
`agg` with functions of lists.
-/

namespace FormulaSheet.Formula

open Script

/-- The nearest whole number, halves upwards. -/
def roundUp (x : Float) : Float := Number.floor (x + 0.5)

def sign (x : Float) : Float :=
  if x.isNaN || x == 0.0 then x else if x < 0.0 then -1.0 else 1.0

/-- The extreme of some numbers: the one that is `better` than all others. What is not a number
makes all of them not a number. -/
def extreme (better : Float → Float → Bool) (start : Float) (xs : List Float) : Float :=
  xs.foldl (fun acc x => if acc.isNaN || x.isNaN then Number.nan
    else if better x acc then x else acc) start

def largest (xs : List Float) : Float := extreme (fun x y => y < x) (-Number.infinity) xs

def smallest (xs : List Float) : Float := extreme (fun x y => x < y) Number.infinity xs

def numbers (items : Array Value) : List Float := items.toList.map Value.number

/-- Sums start from negative zero, which changes no number that it is added to. -/
def sum (xs : List Float) : Float := xs.foldl (· + ·) (-0.0)

def mean (xs : List Float) : Float :=
  if xs.isEmpty then Number.nan else sum xs / Float.ofNat xs.length

/-- The items that do not loosely equal an earlier one. -/
def distinct (items : List Value) : List Value :=
  (items.foldl (fun seen v => if seen.any (·.looselyEqual v) then seen else v :: seen) []).reverse

/-- A power of ten, up to fifteen places in either direction. -/
def tenTo (n : Int) : Float :=
  let n := max (-15) (min 15 n)
  if n < 0 then 1.0 / Float.ofNat (Nat.pow 10 n.natAbs) else Float.ofNat (Nat.pow 10 n.natAbs)

/-- The nearest number with so many places, halves away from zero. -/
def roundTo (x : Float) (places : Int) : Float := Number.round (x * tenTo places) / tenTo places

/-- Functions of one number. -/
def numberFunction? (name : String) : Option (Float → Float) :=
  match name with
  | "abs" => some Float.abs
  | "ceil" => some Number.ceiling
  | "floor" => some Number.floor
  | "round" => some roundUp
  | "trunc" => some Number.trunc
  | "sign" => some sign
  | "sqrt" => some Float.sqrt
  | "log" => some Float.log
  | "exp" => some Float.exp
  | _ => none

/-- Functions of `Math`, except for chance. -/
def math? (name : String) (args : List Value) : Option Value :=
  match name, args with
  | "pow", [x, y] => some (.float (x.number.pow y.number))
  | "max", [.array items] => some (.float (largest (numbers items)))
  | "min", [.array items] => some (.float (smallest (numbers items)))
  | "max", [x, y] => some (.float (largest [x.number, y.number]))
  | "min", [x, y] => some (.float (smallest [x.number, y.number]))
  | "max", [x, y, z] => some (.float (largest [x.number, y.number, z.number]))
  | "min", [x, y, z] => some (.float (smallest [x.number, y.number, z.number]))
  | name, [x] => (numberFunction? name).map fun f => .float (f x.number)
  | _, _ => none

/-- Functions of `agg`. -/
def aggregate? (name : String) (args : List Value) : Option Value :=
  match name, args with
  | "sum", [.array items] => some (.float (sum (numbers items)))
  | "mean", [.array items] => some (.float (mean (numbers items)))
  | "count", [.array items] => some (.int items.size)
  | "max", [.array items] =>
    some (if items.isEmpty then .unit else .float (largest (numbers items)))
  | "min", [.array items] =>
    some (if items.isEmpty then .unit else .float (smallest (numbers items)))
  | "uniq", [.array items] => some (.array (distinct items.toList).toArray)
  | "round", [x] => some (.float (roundUp x.number))
  | "round", [x, .int places] => some (.float (roundTo x.number places))
  | _, _ => none

/-- A number from zero up to one that looks like chance: it depends on how far the script is. -/
def chance : Run Value := do
  let n := (← get).operations
  let size := Nat.pow 2 31
  return .float (Float.ofNat ((n * 1103515245 + 12345) % size) / Float.ofNat size)

/-- A function of a namespace. -/
def pathFunction? (path : String) (args : List Value) : Option (Run Value) :=
  match path.splitOn "::", args with
  | ["Math", "random"], [] => some chance
  | ["Math", name], args => (math? name args).map pure
  | ["agg", name], args => (aggregate? name args).map pure
  | _, _ => none

def constant? (path : String) : Option Value :=
  match path with
  | "Math::PI" => some (.float 3.141592653589793)
  | "Math::E" => some (.float 2.718281828459045)
  | _ => none

end FormulaSheet.Formula
