import FormulaSheet.Script.Run
import FormulaSheet.Number.Numeral

/-!
Operators of the script language. Whole numbers fail where they leave sixty-four bits, text joins
with anything, and values of different kinds are unequal and in no order.
-/

namespace FormulaSheet.Script.Operator

def maxInt : Int := Int.pow 2 63 - 1

def minInt : Int := -Int.pow 2 63

/-- A whole number, unless it does not fit sixty-four bits. -/
def whole (n : Int) : Except Failure Value :=
  if minInt ≤ n ∧ n ≤ maxInt then .ok (.int n) else .error .arithmetic

/-- The bits of a whole number as a natural number. -/
def bits (n : Int) : Nat := (n % Nat.pow 2 64).toNat

/-- The whole number of sixty-four bits. -/
def ofBits (n : Nat) : Int :=
  let m : Nat := n % Nat.pow 2 64
  if m < Nat.pow 2 63 then m else (m : Int) - Nat.pow 2 64

def shiftLeft (a : Int) (n : Nat) : Int := if n ≥ 64 then 0 else ofBits (bits a * Nat.pow 2 n)

def shiftRight (a : Int) (n : Nat) : Int := a / Nat.pow 2 (min n 64)

/-- A power of whole numbers. -/
def power (a b : Int) : Except Failure Value :=
  if b < 0 ∨ b ≥ Nat.pow 2 32 then .error .arithmetic
  else if a = 0 ∨ a = 1 ∨ b = 0 then .ok (.int (if b = 0 then 1 else a))
  else if a = -1 then .ok (.int (if b % 2 = 0 then 1 else -1))
  else if b > 64 then .error .arithmetic
  else whole (Int.pow a b.toNat)

def comparison? (op : String) (o : Ordering) : Option Bool :=
  match op with
  | "==" => some (o == .eq)
  | "!=" => some (o != .eq)
  | "<" => some (o == .lt)
  | "<=" => some (o != .gt)
  | ">" => some (o == .gt)
  | ">=" => some (o != .lt)
  | _ => none

def compared? (op : String) (o : Ordering) : Option (Except Failure Value) :=
  (comparison? op o).map fun b => .ok (.bool b)

def onInts? (op : String) (a b : Int) : Option (Except Failure Value) :=
  match op with
  | "+" => some (whole (a + b))
  | "-" => some (whole (a - b))
  | "*" => some (whole (a * b))
  | "/" => some (if b = 0 then .error .arithmetic else whole (Int.tdiv a b))
  | "%" => some (if b = 0 ∨ (a = minInt ∧ b = -1) then .error .arithmetic
      else .ok (.int (Int.tmod a b)))
  | "**" => some (power a b)
  | "<<" => some (.ok (.int (if b < 0 then shiftRight a b.natAbs else shiftLeft a b.natAbs)))
  | ">>" => some (.ok (.int (if b < 0 then shiftLeft a b.natAbs else shiftRight a b.natAbs)))
  | "&" => some (.ok (.int (ofBits (bits a &&& bits b))))
  | "|" => some (.ok (.int (ofBits (bits a ||| bits b))))
  | "^" => some (.ok (.int (ofBits (bits a ^^^ bits b))))
  | ".." => some (.ok (.range a b false))
  | "..=" => some (.ok (.range a b true))
  | _ => compared? op (compare a b)

def onFloats? (op : String) (a b : Float) : Option (Except Failure Value) :=
  match op with
  | "+" => some (.ok (.float (a + b)))
  | "-" => some (.ok (.float (a - b)))
  | "*" => some (.ok (.float (a * b)))
  | "/" => some (.ok (.float (a / b)))
  | "%" => some (.ok (.float (Number.remainder a b)))
  | "**" => some (.ok (.float (a.pow b)))
  | "==" => some (.ok (.bool (a == b)))
  | "!=" => some (.ok (.bool (a != b)))
  | "<" => some (.ok (.bool (a < b)))
  | "<=" => some (.ok (.bool (a ≤ b)))
  | ">" => some (.ok (.bool (b < a)))
  | ">=" => some (.ok (.bool (b ≤ a)))
  | _ => none

def onBools? (op : String) (a b : Bool) : Option (Except Failure Value) :=
  match op with
  | "&" => some (.ok (.bool (a && b)))
  | "|" => some (.ok (.bool (a || b)))
  | "^" => some (.ok (.bool (a != b)))
  | _ => compared? op (compare a b)

def onTexts? (op : String) (a b : String) : Option (Except Failure Value) :=
  match op with
  | "+" => some (.ok (.text (a ++ b)))
  | _ => compared? op (compare a b)

/-- A character is compared with a text by the first two characters. -/
def onShort? (op : String) (a b : List Char) : Option (Except Failure Value) :=
  let two := fun (cs : List Char) => ((cs ++ [Char.ofNat 0, Char.ofNat 0]).take 2).map Char.toNat
  match op with
  | "+" => some (.ok (.text (String.ofList (a ++ b))))
  | _ => compared? op (List.compareLex compare (two a) (two b))

/-- The union of two maps, where the second one decides. -/
def union (a b : List (String × Value)) : List (String × Value) :=
  b.foldl (fun es e => Entries.insert e.1 e.2 es) a

/-- Values of different kinds are unequal and in no order. -/
def onDifferent? (op : String) : Option (Except Failure Value) :=
  match op with
  | "!=" => some (.ok (.bool true))
  | "==" | "<" | "<=" | ">" | ">=" => some (.ok (.bool false))
  | _ => none

/-- A binary operator on two values, except for the equality of lists and maps. There is none
where the operator has no meaning. -/
def binary? (op : String) (a b : Value) : Option (Except Failure Value) :=
  match a, b with
  | .int a, .int b => onInts? op a b
  | .float a, .float b => onFloats? op a b
  | .int a, .float b => onFloats? op (Float.ofInt a) b
  | .float a, .int b => onFloats? op a (Float.ofInt b)
  | .bool a, .bool b => onBools? op a b
  | .char a, .char b =>
    if op = "+" then some (.ok (.text (String.ofList [a, b])))
    else compared? op (compare a.toNat b.toNat)
  | .text a, .text b => onTexts? op a b
  | .text a, .char b =>
    if op = "-" then some (.ok (.text (String.ofList (a.toList.filter (· != b)))))
    else onShort? op a.toList [b]
  | .char a, .text b => onShort? op [a] b.toList
  | .unit, .unit =>
    match op with
    | "==" | "<=" | ">=" => some (.ok (.bool true))
    | "!=" | "<" | ">" => some (.ok (.bool false))
    | _ => none
  | .array a, .array b => if op = "+" then some (.ok (.array (a ++ b))) else none
  | .map a, .map b => if op = "+" then some (.ok (.map (union a b))) else none
  | .range a b false, .range c d false => compareRanges op (a, b) (c, d)
  | .range a b true, .range c d true => compareRanges op (a, b) (c, d)
  | .text a, b =>
    if op = "+" then some (.ok (.text (a ++ b.scriptText))) else onDifferent? op
  | a, .text b =>
    if op = "+" then some (.ok (.text (a.scriptText ++ b))) else onDifferent? op
  | a, b => if a.kind = b.kind then none else onDifferent? op
where
  compareRanges (op : String) (a b : Int × Int) : Option (Except Failure Value) :=
    match op with
    | "==" => some (.ok (.bool (a == b)))
    | "!=" => some (.ok (.bool (a != b)))
    | _ => none

/-- An operator before a value. -/
def unary? (op : String) (a : Value) : Option (Except Failure Value) :=
  match op, a with
  | "-", .int n => some (whole (-n))
  | "-", .float x => some (.ok (.float (-x)))
  | "+", .int n => some (.ok (.int n))
  | "+", .float x => some (.ok (.float x))
  | "!", .bool b => some (.ok (.bool !b))
  | _, _ => none

/-- An operator that changes a value in place where that differs from the operator itself: whole
numbers are divided without fraction, and lists take in any value. -/
def update? (op : String) (a b : Value) : Option (Except Failure Value) :=
  match op, a, b with
  | "/", .int a, .int b => onInts? "/" a b
  | "+", .array a, .array b => some (.ok (.array (a ++ b)))
  | "+", .array a, b => some (.ok (.array (a.push b)))
  | "-", .text a, .char b =>
    some (.ok (.text (String.ofList (a.toList.filter (· != b)))))
  | _, _, _ => none

def names : List String :=
  ["+", "-", "*", "/", "%", "**", "<<", ">>", "&", "|", "^", "==", "!=", "<", "<=", ">", ">=",
   "..", "..=", "!"]

end FormulaSheet.Script.Operator
