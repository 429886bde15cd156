import FormulaSheet.Script.Library.Native

/-!
Ready functions on numbers and ranges.
-/

namespace FormulaSheet.Script.Numbers

open Answer

def sign (n : Int) : Int := if n < 0 then -1 else if n = 0 then 0 else 1

def ofWhole (n : Int) : Answer := some ((Operator.whole n).map fun v => ⟨v, none⟩)

/-- Functions of one number with a fraction that give another one. -/
def ofFloat? (name : String) (x : Float) : Option Float :=
  match name with
  | "sin" => some x.sin
  | "cos" => some x.cos
  | "tan" => some x.tan
  | "asin" => some x.asin
  | "acos" => some x.acos
  | "atan" => some x.atan
  | "sinh" => some x.sinh
  | "cosh" => some x.cosh
  | "tanh" => some x.tanh
  | "sqrt" => some x.sqrt
  | "exp" => some x.exp
  | "ln" => some x.log
  | "log" => some x.log10
  | "floor" => some (Number.floor x)
  | "ceiling" => some (Number.ceiling x)
  | "round" => some (Number.round x)
  | "int" => some (Number.trunc x)
  | "fraction" => some (x - Number.trunc x)
  | "abs" => some x.abs
  | "to_float" => some x
  | _ => none

/-- The steps of a counting loop. -/
def stepped (start stop step : Int) : Nat → List Value
  | 0 => []
  | fuel + 1 =>
    if (step > 0 ∧ start < stop) ∨ (step < 0 ∧ start > stop) then
      .int start :: stepped (start + step) stop step fuel
    else []

def call? (name : String) (args : List Value) : Answer :=
  match name, args with
  | "abs", [.int n] => ofWhole n.natAbs
  | "sign", [.int n] => gives (.int (sign n))
  | "sign", [.float x] => gives (.int (if x > 0.0 then 1 else if x < 0.0 then -1 else 0))
  | "is_zero", [.int n] => ofBool (n == 0)
  | "is_zero", [.float x] => ofBool (x == 0.0)
  | "is_odd", [.int n] => ofBool (n % 2 != 0)
  | "is_even", [.int n] => ofBool (n % 2 == 0)
  | "is_nan", [.float x] => ofBool x.isNaN
  | "is_finite", [.float x] => ofBool x.isFinite
  | "is_infinite", [.float x] => ofBool x.isInf
  | "to_int", [.int n] => gives (.int n)
  | "to_float", [.int n] => gives (.float (Float.ofInt n))
  | "to_int", [.float x] =>
    match Number.Binary.ofFloat? x with
    | some b => ofWhole b.truncated
    | none => fails .arithmetic
  | "min", [.int a, .int b] => gives (.int (min a b))
  | "max", [.int a, .int b] => gives (.int (max a b))
  | "min", [.float a, .float b] => gives (.float (if b < a then b else a))
  | "max", [.float a, .float b] => gives (.float (if a < b then b else a))
  | "min", [.int a, .float b] => gives (.float (if b < Float.ofInt a then b else Float.ofInt a))
  | "max", [.int a, .float b] => gives (.float (if Float.ofInt a < b then b else Float.ofInt a))
  | "min", [.float a, .int b] => gives (.float (if Float.ofInt b < a then Float.ofInt b else a))
  | "max", [.float a, .int b] => gives (.float (if a < Float.ofInt b then Float.ofInt b else a))
  | "PI", [] => gives (.float 3.141592653589793)
  | "E", [] => gives (.float 2.718281828459045)
  | "range", [.int a, .int b] => gives (.range a b false)
  | "range", [.int a, .int b, .int c] =>
    if c = 0 then fails .arithmetic
    else gives (.sequence (stepped a b c (Limits.operations + 1)))
  | "is_empty", [.range a b closed] => ofBool (if closed then b < a else b ≤ a)
  | "contains", [.range a b closed, .int n] =>
    ofBool (a ≤ n && (n < b || (closed && n == b)))
  | _, [.float x] => (ofFloat? name x).bind fun y => gives (.float y)
  | _, _ => none

/-- Members of numbers and ranges. -/
def property? (v : Value) (name : String) : Option Value :=
  match v, name with
  | .int n, "is_zero" => some (.bool (n == 0))
  | .int n, "is_odd" => some (.bool (n % 2 != 0))
  | .int n, "is_even" => some (.bool (n % 2 == 0))
  | .float x, "is_zero" => some (.bool (x == 0.0))
  | .float x, "is_nan" => some (.bool x.isNaN)
  | .float x, "is_finite" => some (.bool x.isFinite)
  | .float x, "is_infinite" => some (.bool x.isInf)
  | .float x, "floor" => some (.float (Number.floor x))
  | .float x, "ceiling" => some (.float (Number.ceiling x))
  | .float x, "round" => some (.float (Number.round x))
  | .float x, "int" => some (.float (Number.trunc x))
  | .float x, "fraction" => some (.float (x - Number.trunc x))
  | .range a _ _, "start" => some (.int a)
  | .range _ b _, "end" => some (.int b)
  | .range _ _ closed, "is_inclusive" => some (.bool closed)
  | .range _ _ closed, "is_exclusive" => some (.bool !closed)
  | .range a b closed, "is_empty" => some (.bool (if closed then b < a else b ≤ a))
  | _, _ => none

end FormulaSheet.Script.Numbers
