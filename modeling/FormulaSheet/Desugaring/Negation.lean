import FormulaSheet.Desugaring.Scan

/-!
Negation of any value: `!x` becomes `!truthy(x)`. The operand is a path of names, points, `::` and
bracket groups, after any further negations.
-/

namespace FormulaSheet.Desugaring

/-- Whether a `!` before this text negates; it does not in `!=` and in `!in`. -/
def isNegated : List Char → Bool
  | '=' :: _ => false
  | 'i' :: 'n' :: rest => (rest.head?).any isNameChar
  | _ => true

/-- The characters of a path, groups included; `fuel` bounds the length of the text. -/
def pathLength : Nat → List Char → Nat
  | 0, _ => 0
  | _, [] => 0
  | fuel + 1, c :: cs =>
    if isOpener c then
      match group? (c :: cs) with
      | some (inside, _, rest) => inside.length + 2 + pathLength fuel rest
      | none => cs.length + 1
    else if isNameChar c || c == '@' || c == '.' then 1 + pathLength fuel cs
    else
      match c, cs with
      | ':', ':' :: rest => 2 + pathLength fuel rest
      | _, _ => 0

/-- The characters of the operand after a `!`, blanks before it included; zero when there is no
operand. -/
def operandLength : List Char → Nat
  | [] => 0
  | c :: cs =>
    if Text.isBlank c then
      match operandLength cs with
      | 0 => 0
      | n => n + 1
    else if c = '!' then 1 + operandLength cs
    else pathLength (cs.length + 1) (c :: cs)

/-- Desugars negations, those inside operands too. -/
def negationRule (inner : List Char → List Char) : Rule := fun _ cs =>
  match cs with
  | '!' :: rest =>
    if isNegated rest then
      let n := operandLength rest
      let operand := trim (rest.take n)
      if operand.isEmpty then none
      else some ("!truthy(".toList ++ inner operand ++ [')'], n + 1)
    else none
  | _ => none

/-- Desugars negations down to a depth of nested operands. -/
def desugarNegations : Nat → List Char → List Char
  | 0, cs => cs
  | fuel + 1, cs => replaceAll (negationRule (desugarNegations fuel)) cs

end FormulaSheet.Desugaring
