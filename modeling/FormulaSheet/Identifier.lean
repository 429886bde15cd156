/-!
Identifiers of rows and tables: thirty-two hexadecimal digits in five groups, of which six bits
are fixed and the others come from a number.
-/

namespace FormulaSheet.Identifier

/-- The value of all bits: version 4 and the variant are set between the bits of `n`. -/
def bits (n : Nat) : Nat :=
  let low := n % Nat.pow 2 62
  let middle := n / Nat.pow 2 62 % Nat.pow 2 12
  let high := n / Nat.pow 2 74 % Nat.pow 2 48
  high * Nat.pow 2 80 + 4 * Nat.pow 2 76 + middle * Nat.pow 2 64 + 2 * Nat.pow 2 62 + low

def hexDigits (width n : Nat) : List Char :=
  let cs := Nat.toDigits 16 n
  List.replicate (width - cs.length) '0' ++ cs

/-- The identifier of a number; numbers below `2 ^ 122` have different ones. -/
def ofNat (n : Nat) : String :=
  let cs := hexDigits 32 (bits n)
  let group := fun (start size : Nat) => String.ofList ((cs.drop start).take size)
  String.intercalate "-" [group 0 8, group 8 4, group 12 4, group 16 4, group 20 12]

end FormulaSheet.Identifier
