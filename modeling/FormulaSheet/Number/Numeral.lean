import FormulaSheet.Text.Classes
import FormulaSheet.Number.Binary

/-!
Numerals: texts that denote numbers. A decimal numeral has an optional sign, digits with an
optional point, and an optional exponent. `ofText` also accepts what forms accept: blank text is
zero, `Infinity`, and whole numbers in base sixteen, eight and two. `ofLeading` reads the longest
numeral at the start of a text, `ofDisplayed?` reads amounts with currency signs and separators.
-/

namespace FormulaSheet.Number

/-- The number `mantissa * 10 ^ exponent`, negated when `negative`. -/
structure Numeral where
  negative : Bool
  mantissa : Nat
  exponent : Int
  deriving DecidableEq, Repr

/-- The value of a run of decimal digits. -/
def ofDigits (cs : List Char) : Nat := cs.foldl (fun n c => 10 * n + (c.toNat - 48)) 0

/-- An optional sign: whether it is a minus, and what follows. -/
def splitSign : List Char → Bool × List Char
  | '-' :: cs => (true, cs)
  | '+' :: cs => (false, cs)
  | cs => (false, cs)

namespace Numeral

/-- The nearest double. Beyond four hundred places the answer is infinite or zero. -/
def toFloat (n : Numeral) : Float :=
  let size := (n.mantissa.log2 : Int) / 3 + 2 + n.exponent
  let x :=
    if n.mantissa = 0 ∨ size < -400 then 0.0
    else if n.exponent > 400 then infinity
    else Float.ofScientific n.mantissa (n.exponent < 0) n.exponent.natAbs
  if n.negative then -x else x

/-- The exponent part of a numeral, all of it: nothing, or `e`, an optional sign and digits. -/
def exponentOf? : List Char → Option Int
  | [] => some 0
  | c :: cs =>
    if c = 'e' ∨ c = 'E' then
      let (negative, ds) := splitSign cs
      if ds.isEmpty ∨ !ds.all Text.isAsciiDigit then none
      else if negative then some (-(ofDigits ds : Int)) else some (ofDigits ds)
    else none

/-- Reads a whole text as a decimal numeral. -/
def ofChars? (text : List Char) : Option Numeral :=
  let (negative, cs) := splitSign text
  let (whole, rest) := cs.span Text.isAsciiDigit
  let (places, rest) := match rest with
    | '.' :: rest => rest.span Text.isAsciiDigit
    | _ => ([], rest)
  if whole.isEmpty ∧ places.isEmpty then none
  else (exponentOf? rest).map fun e =>
    ⟨negative, ofDigits (whole ++ places), e - places.length⟩

end Numeral

/-- The double that a decimal numeral denotes; not a number for any other text. -/
def ofNumeral (cs : List Char) : Float :=
  match Numeral.ofChars? cs with
  | some n => n.toFloat
  | none => nan

/-- The text without the blanks at its ends. -/
def trimmed (cs : List Char) : List Char :=
  ((cs.dropWhile Text.isBlank).reverse.dropWhile Text.isBlank).reverse

/-- The value of a digit in bases up to thirty-six. -/
def digitValue? (c : Char) : Option Nat :=
  if '0' ≤ c ∧ c ≤ '9' then some (c.toNat - 48)
  else if 'a' ≤ c ∧ c ≤ 'z' then some (c.toNat - 87)
  else if 'A' ≤ c ∧ c ≤ 'Z' then some (c.toNat - 55)
  else none

/-- Reads digits of a base up to the end of the text. -/
def wholeInBase? (base : Nat) : List Char → Nat → Option Nat
  | [], n => some n
  | c :: cs, n =>
    match digitValue? c with
    | some d => if d < base then wholeInBase? base cs (base * n + d) else none
    | none => none

/-- A number of at most sixty-four bits in the digits of a base. -/
def ofBaseDigits (base : Nat) (digits : List Char) : Float :=
  if digits.isEmpty then nan
  else
    match wholeInBase? base digits 0 with
    | some n => if n < Nat.pow 2 64 then Float.ofNat n else nan
    | none => nan

/-- A number after its base mark; a plus sign may precede it. -/
def ofBase (base : Nat) : List Char → Float
  | '+' :: ds => ofBaseDigits base ds
  | ds => ofBaseDigits base ds

/-- The number that a trimmed text denotes. -/
def ofTrimmed : List Char → Float
  | [] => 0.0
  | '0' :: 'x' :: cs | '0' :: 'X' :: cs => ofBase 16 cs
  | '0' :: 'o' :: cs | '0' :: 'O' :: cs => ofBase 8 cs
  | '0' :: 'b' :: cs | '0' :: 'B' :: cs => ofBase 2 cs
  | cs =>
    if cs = "Infinity".toList ∨ cs = "+Infinity".toList then infinity
    else if cs = "-Infinity".toList then -infinity
    else ofNumeral cs

/-- The number that a text denotes, blanks at its ends aside. -/
def ofText (text : String) : Float := ofTrimmed (trimmed text.toList)

/-- The sign at the front of a text, and what follows it. -/
def signOf : List Char → List Char × List Char
  | '-' :: cs => (['-'], cs)
  | '+' :: cs => (['+'], cs)
  | cs => ([], cs)

/-- The longest mantissa at the front of a text, and what follows it: digits with an optional point
and further digits, or a point and digits. -/
def mantissaOf? (digit : Char → Bool) (cs : List Char) : Option (List Char × List Char) :=
  match cs.takeWhile digit, cs.dropWhile digit with
  | d :: ds, '.' :: rest => some (d :: ds ++ '.' :: rest.takeWhile digit, rest.dropWhile digit)
  | d :: ds, rest => some (d :: ds, rest)
  | [], '.' :: rest =>
    if (rest.takeWhile digit).isEmpty then none
    else some ('.' :: rest.takeWhile digit, rest.dropWhile digit)
  | [], _ => none

/-- The longest exponent at the front of a text, nothing if there is none. -/
def exponentOf (digit : Char → Bool) : List Char → List Char
  | [] => []
  | c :: cs =>
    if c = 'e' ∨ c = 'E' then
      let (sign, ds) := signOf cs
      if (ds.takeWhile digit).isEmpty then [] else c :: (sign ++ ds.takeWhile digit)
    else []

/-- The characters of the longest numeral at the front, in digits of one class. -/
def leading? (digit : Char → Bool) (text : List Char) : Option (List Char) :=
  let (sign, cs) := signOf text
  (mantissaOf? digit cs).map fun (mantissa, rest) => sign ++ (mantissa ++ exponentOf digit rest)

/-- The number at the start of a text, after blanks. Digits of other scripts belong to the
numeral but have no value, so that it is then not a number. -/
def ofLeading (text : String) : Float :=
  match leading? Text.isDigit (text.toList.dropWhile Text.isBlank) with
  | some cs => ofNumeral cs
  | none => nan

/-- Characters that amounts are decorated with. -/
def isDecoration (c : Char) : Bool :=
  c == '$' || c == '￥' || c == '¥' || c == ',' || Text.isBlank c

/-- The finite number in a decorated amount such as `¥1,200`. -/
def ofDisplayed? (text : String) : Option Float :=
  let cs := text.toList.filter fun c => !isDecoration c
  if cs.isEmpty then none
  else
    let x := ofTrimmed cs
    if x.isFinite then some x else none

end FormulaSheet.Number
