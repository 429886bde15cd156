import FormulaSheet.Desugaring.Scan

/-!
String literals in formulas. While a formula is desugared each literal is represented by a
numbered placeholder, so that nothing inside it is touched. Literals between apostrophes are
written between double quotes afterwards; those between backticks stay as they are.
-/

namespace FormulaSheet.Desugaring

/-- Where a reader stands: in code, or in a literal that a quote opened, whose text so far is kept
backwards. -/
inductive Place where
  | code
  | literal (quote : Char) (text : List Char)

/-- Code with placeholders and the literals they stand for, both backwards. -/
structure Masked where
  code : List Char := []
  literals : List (List Char) := []

def placeholder (n : Nat) : List Char :=
  "@@@".toList ++ Nat.toDigits 10 n ++ "@@@".toList

def isQuote (c : Char) : Bool := c == '"' || c == '\'' || c == '`'

/-- The quote that a literal has afterwards. -/
def quoteAfter (quote : Char) : Char := if quote = '`' then '`' else '"'

/-- Ends a literal, given backwards, and puts its placeholder into the code. -/
def Masked.close (m : Masked) (literal : List Char) : Masked :=
  { code := (placeholder m.literals.length).reverseAux m.code
    literals := literal.reverse :: m.literals }

/-- Reads a formula. In a literal a backslash protects the next character, except between
backticks; an apostrophe loses that backslash and a double quote between apostrophes gains one. -/
def maskFrom : Place → Masked → List Char → Masked
  | .code, m, [] => m
  | .literal _ text, m, [] => m.close text
  | .code, m, c :: cs =>
    if isQuote c then maskFrom (.literal c [quoteAfter c]) m cs
    else maskFrom .code { m with code := c :: m.code } cs
  | .literal q text, m, [c] =>
    if c = q then m.close (quoteAfter q :: text)
    else if c = '"' ∧ q = '\'' then m.close ('"' :: '\\' :: text)
    else m.close (c :: text)
  | .literal q text, m, c :: d :: cs =>
    if c = '\\' ∧ q ≠ '`' then
      if d = '\'' ∧ q = '\'' then maskFrom (.literal q ('\'' :: text)) m cs
      else maskFrom (.literal q (d :: '\\' :: text)) m cs
    else if c = q then maskFrom .code (m.close (quoteAfter q :: text)) (d :: cs)
    else if c = '"' ∧ q = '\'' then maskFrom (.literal q ('"' :: '\\' :: text)) m (d :: cs)
    else maskFrom (.literal q (c :: text)) m (d :: cs)

/-- The code of a formula with placeholders, and its literals in order. A literal that is not
closed reaches to the end. -/
def mask (cs : List Char) : List Char × List (List Char) :=
  let m := maskFrom .code {} cs
  (m.code.reverse, m.literals.reverse)

/-- The number of a placeholder; only the digits `0` to `9` count. -/
def placeholderNumber? (ds : List Char) : Option Nat :=
  if ds.all Text.isAsciiDigit then some (ds.foldl (fun n c => 10 * n + (c.toNat - 48)) 0) else none

/-- The digits between the marks of a placeholder at the front of a text. -/
def placeholderDigits? (cs : List Char) : Option (List Char) :=
  (after? "@@@".toList cs).bind fun rest =>
    let (ds, rest) := rest.span Text.isDigit
    if ds.isEmpty then none else (after? "@@@".toList rest).map fun _ => ds

/-- Replaces a placeholder by its literal, and one without literal by itself. -/
def unmaskRule (literals : Array (List Char)) : Rule := fun _ cs =>
  (placeholderDigits? cs).map fun ds =>
    let n := ds.length + 6
    match (placeholderNumber? ds).bind fun k => literals[k]? with
    | some literal => (literal, n)
    | none => (cs.take n, n)

/-- Puts the literals back. -/
def unmask (literals : List (List Char)) (cs : List Char) : List Char :=
  if literals.isEmpty then cs else replaceAll (unmaskRule literals.toArray) cs

end FormulaSheet.Desugaring
