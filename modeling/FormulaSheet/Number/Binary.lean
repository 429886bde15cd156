/-!
Doubles as exact numbers. Every finite double is a whole number times a power of two; taken
apart this way it can be rounded, truncated and printed in exact arithmetic.
-/

namespace FormulaSheet.Number

def nan : Float := 0.0 / 0.0

def infinity : Float := 1.0 / 0.0

/-- The finite double `mantissa * 2 ^ exponent`, negated when `negative`. -/
structure Binary where
  negative : Bool
  mantissa : Nat
  exponent : Int
  deriving DecidableEq, Repr

namespace Binary

/-- Takes a finite double apart: one sign bit, eleven exponent bits, fifty-two fraction bits. -/
def ofFloat? (x : Float) : Option Binary :=
  let bits := x.toBits.toNat
  let negative := decide (Nat.pow 2 63 ≤ bits)
  let exponent : Nat := bits / Nat.pow 2 52 % Nat.pow 2 11
  let fraction : Nat := bits % Nat.pow 2 52
  if exponent = 2047 then none
  else if exponent = 0 then some ⟨negative, fraction, -1074⟩
  else some ⟨negative, fraction + Nat.pow 2 52, (exponent : Int) - 1075⟩

/-- The absolute value, as a fraction. -/
def magnitude (b : Binary) : Nat × Nat :=
  if b.exponent < 0 then (b.mantissa, Nat.pow 2 (-b.exponent).toNat)
  else (b.mantissa * Nat.pow 2 b.exponent.toNat, 1)

/-- The whole part, toward zero. -/
def truncated (b : Binary) : Int :=
  let (n, d) := b.magnitude
  if b.negative then -((n / d : Nat) : Int) else ((n / d : Nat) : Int)

/-- Whether there is no fractional part. -/
def isWhole (b : Binary) : Bool :=
  let (n, d) := b.magnitude
  n % d == 0

/-- The largest whole number that is not above. -/
def floored (b : Binary) : Int :=
  if b.negative && !b.isWhole then b.truncated - 1 else b.truncated

/-- The nearest whole number, halves away from zero. -/
def rounded (b : Binary) : Int :=
  let (n, d) := b.magnitude
  let r := (2 * n + d) / (2 * d)
  if b.negative then -(r : Int) else (r : Int)

end Binary

/-- A whole number as a double that keeps the sign of `like` when it is zero. -/
private def wholeLike (like : Float) (n : Int) : Float :=
  if n = 0 then (if like.toBits.toNat < Nat.pow 2 63 then 0.0 else -0.0) else Float.ofInt n

private def viaWhole (f : Binary → Int) (x : Float) : Float :=
  match Binary.ofFloat? x with
  | some b => if b.exponent < 0 then wholeLike x (f b) else x
  | none => x

/-- The whole part of a double, toward zero. -/
def trunc (x : Float) : Float := viaWhole Binary.truncated x

def floor (x : Float) : Float := viaWhole Binary.floored x

def ceiling (x : Float) : Float :=
  viaWhole (fun b => -Binary.floored { b with negative := !b.negative }) x

/-- The nearest whole double, halves away from zero. -/
def round (x : Float) : Float := viaWhole Binary.rounded x

/-- Whether a double is a whole number. -/
def isWhole (x : Float) : Bool :=
  match Binary.ofFloat? x with
  | some b => b.isWhole
  | none => false

/-- A power of two that a double can hold. -/
private def powerOfTwo (e : Int) : Float :=
  if e < -1022 then Float.ofBits (1 <<< (e + 1074).toNat.toUInt64)
  else Float.ofBits ((e + 1023).toNat.toUInt64 <<< 52)

/-- The double `n * 2 ^ e`, for numbers that a double can hold. -/
private def scaled (n : Nat) (e : Int) : Float :=
  let surplus := n.log2 - 52
  Float.ofNat (n >>> surplus) * powerOfTwo (e + surplus)

/-- The remainder of `x` by `y` with the sign of `x`, computed exactly. -/
def remainder (x y : Float) : Float :=
  match Binary.ofFloat? x, Binary.ofFloat? y with
  | some a, some b =>
    if b.mantissa = 0 then nan
    else
      let low := min a.exponent b.exponent
      let m := a.mantissa * Nat.pow 2 (a.exponent - low).toNat
      let n := b.mantissa * Nat.pow 2 (b.exponent - low).toNat
      let r := scaled (m % n) low
      if a.negative then -r else r
  | some _, none => if y.isNaN then nan else x
  | none, _ => nan

end FormulaSheet.Number
