import FormulaSheet.Number.Binary

/-!
Decimal texts of doubles. `shortest` is the decimal with the fewest digits that rounds to a given
double, and of those the nearest to it; `fixed` rounds the exact value to a number of places, a
half to the even neighbour.
-/

namespace FormulaSheet.Number

/-- The number `digits * 10 ^ exponent`. -/
structure Decimal where
  digits : Nat
  exponent : Int
  deriving DecidableEq, Repr

namespace Decimal

/-- The digits of a number in base ten. -/
def digitChars (n : Nat) : List Char := Nat.toDigits 10 n

/-- Moves the zeros at the end of the digits into the exponent. -/
def stripped (fuel : Nat) (d : Decimal) : Decimal :=
  match fuel with
  | 0 => d
  | fuel + 1 =>
    if d.digits % 10 = 0 ∧ d.digits ≠ 0 then stripped fuel ⟨d.digits / 10, d.exponent + 1⟩ else d

/-- The digits without an exponent, such as `1200`, `1.5` and `0.001`. -/
def positional (d : Decimal) : String :=
  let cs := digitChars d.digits
  if d.exponent ≥ 0 then String.ofList (cs ++ List.replicate d.exponent.toNat '0')
  else
    let places := (-d.exponent).toNat
    let padded := List.replicate (places + 1 - cs.length) '0' ++ cs
    let whole := padded.length - places
    String.ofList (padded.take whole ++ '.' :: padded.drop whole)

/-- One digit before the point and a power of ten, such as `1.5e-7`. -/
def scientific (d : Decimal) : String :=
  match digitChars d.digits with
  | [] => ""
  | c :: cs =>
    let power := d.exponent + cs.length
    String.ofList (c :: (if cs.isEmpty then [] else '.' :: cs)) ++ "e" ++ toString power

end Decimal

namespace Binary

/-- Compares `a * 10 ^ k` with `n * 2 ^ q`. -/
def compareScaled (a : Nat) (k : Int) (n : Nat) (q : Int) : Ordering :=
  compare (a * Nat.pow 10 k.toNat * Nat.pow 2 (-q).toNat)
    (n * Nat.pow 2 q.toNat * Nat.pow 10 (-k).toNat)

/-- The power of ten just above the value. -/
def decimalSize (b : Binary) : Int :=
  let guess := ((b.mantissa.log2 : Int) + b.exponent) * 30103 / 100000
  let above (e : Int) : Bool := compareScaled 1 e b.mantissa b.exponent == .gt
  if above guess then guess else if above (guess + 1) then guess + 1 else guess + 2

/-- Whether `a * 10 ^ k` rounds to `b`: it lies within half a step of `b`, the ends counting when
the mantissa is even. -/
def readsBack (b : Binary) (a : Nat) (k : Int) : Bool :=
  let low := if b.mantissa = Nat.pow 2 52 ∧ b.exponent > -1074 then 4 * b.mantissa - 1
    else 4 * b.mantissa - 2
  let lower := compareScaled a k low (b.exponent - 2)
  let upper := compareScaled a k (4 * b.mantissa + 2) (b.exponent - 2)
  if b.mantissa % 2 = 0 then lower != .lt && upper != .gt else lower == .gt && upper == .lt

/-- The decimal with `count` digits or fewer that rounds to `b`, the nearest of two neighbours and
the upper one when both are equally near. -/
def withDigits? (b : Binary) (size : Int) (count : Nat) : Option Decimal :=
  let k := size - count
  let num := b.mantissa * Nat.pow 2 b.exponent.toNat * Nat.pow 10 (-k).toNat
  let den := Nat.pow 2 (-b.exponent).toNat * Nat.pow 10 k.toNat
  let below := num / den
  let nearUpper := decide (den ≤ 2 * (num % den))
  match b.readsBack below k, b.readsBack (below + 1) k with
  | true, true => some ⟨if nearUpper then below + 1 else below, k⟩
  | true, false => some ⟨below, k⟩
  | false, true => some ⟨below + 1, k⟩
  | false, false => none

/-- The shortest decimal that rounds to `b`; seventeen digits always suffice. -/
def shortest (b : Binary) : Decimal :=
  if b.mantissa = 0 then ⟨0, 0⟩
  else
    let size := b.decimalSize
    match (List.range 18).tail.findSome? (b.withDigits? size) with
    | some d => d.stripped 20
    | none => ⟨0, 0⟩

/-- The value rounded to `places` digits after the point, a half to the even neighbour. -/
def fixed (b : Binary) (places : Nat) : Decimal :=
  let num := b.mantissa * Nat.pow 2 b.exponent.toNat * Nat.pow 10 places
  let den := Nat.pow 2 (-b.exponent).toNat
  let below := num / den
  let up := match compare (2 * (num % den)) den with
    | .gt => true
    | .eq => below % 2 == 1
    | .lt => false
  ⟨if up then below + 1 else below, -(places : Int)⟩

end Binary

/-- Writes the sign and the digits of a finite double, and names the others. -/
def written (x : Float) (digits : Binary → String) : String :=
  match Binary.ofFloat? x with
  | some b => (if b.negative then "-" else "") ++ digits b
  | none => if x.isNaN then "NaN" else if x < 0.0 then "-inf" else "inf"

/-- The shortest text without an exponent. -/
def positional (x : Float) : String := written x fun b => b.shortest.positional

/-- The shortest text with an exponent. -/
def scientific (x : Float) : String := written x fun b => b.shortest.scientific

/-- The text with exactly `places` digits after the point. -/
def fixed (x : Float) (places : Nat) : String := written x fun b => (b.fixed places).positional

/-- How a number is shown: its shortest text without an exponent, and no sign on zero. -/
def display (x : Float) : String := if x == 0.0 then "0" else positional x

end FormulaSheet.Number
