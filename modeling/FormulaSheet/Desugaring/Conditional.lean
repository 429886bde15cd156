import FormulaSheet.Desugaring.Head

/-!
Logic and conditionals over any values. `a && b` and `a || b` become blocks that test the left
operand and give one of the two; `c ? a : b` becomes an `if`. Bracket groups are desugared from
the inside out, and each level part by part between its commas and semicolons.
-/

namespace FormulaSheet.Desugaring

/-- The name that holds a left operand. -/
def heldName : List Char := "js_lhs".toList

/-- A block that tests `left` and gives one of two values. -/
def chooseBlock (left onTrue onFalse : List Char) : List Char :=
  "(\x7b let ".toList ++ heldName ++ " = ".toList ++ left ++ "; if truthy(".toList ++ heldName ++
    ") \x7b ".toList ++ onTrue ++ " \x7d else \x7b ".toList ++ onFalse ++ " \x7d \x7d)".toList

def andBlock (left right : List Char) : List Char := chooseBlock left right heldName

def orBlock (left right : List Char) : List Char := chooseBlock left heldName right

/-- Joins the parts of a chain from the left. -/
def chain (join : List Char → List Char → List Char) : List (List Char) → List Char
  | [] => []
  | part :: parts => parts.foldl join part

def conjuncts (cs : List Char) : List (List Char) := splitPairs '&' 0 [] cs

def disjuncts (cs : List Char) : List (List Char) := splitPairs '|' 0 [] cs

/-- Words that begin a statement, which has no value to test. -/
def statementWords : List (List Char) :=
  ["if", "while", "for", "loop", "do", "switch", "fn"].map String.toList

def beginsWith (word cs : List Char) : Bool :=
  match after? word cs with
  | some rest => !(rest.head?).any isNameChar
  | none => false

/-- Desugars `&&` and `||` outside brackets; `&&` binds tighter. -/
def desugarLogic (cs : List Char) : List Char :=
  let (head, value) := splitHead cs
  let body := trim value
  if statementWords.any fun w => beginsWith w body then cs
  else
    let parts := disjuncts body
    if parts.length = 1 ∧ (conjuncts body).length = 1 then cs
    else
      let joined := chain orBlock (parts.map fun part => chain andBlock ((conjuncts part).map trim))
      head ++ gap head ++ joined ++ trailingBlanks value

/-- Whether a `?` between two characters is a conditional's. -/
def isQuestion (before after : Option Char) : Bool :=
  before != some '?' && after != some '?' && after != some '.' && after != some '['

/-- Whether a `:` between two characters is a conditional's. -/
def isColon (before after : Option Char) : Bool := before != some ':' && after != some ':'

/-- Splits a text at its first conditional `?` outside brackets. -/
def splitQuestion? (depth : Nat) (before : Option Char) :
    List Char → Option (List Char × List Char)
  | [] => none
  | c :: cs =>
    if c = '?' ∧ depth = 0 ∧ isQuestion before cs.head? then some ([], cs)
    else (splitQuestion? (depthAfter c depth) (some c) cs).map fun (a, b) => (c :: a, b)

/-- Splits a text at the `:` that belongs to a `?` before it; `nested` counts those still open. -/
def splitColon? (depth nested : Nat) (before : Option Char) :
    List Char → Option (List Char × List Char)
  | [] => none
  | c :: cs =>
    let more := fun nested =>
      (splitColon? (depthAfter c depth) nested (some c) cs).map fun (a, b) => (c :: a, b)
    if c = '?' ∧ depth = 0 ∧ isQuestion before cs.head? then more (nested + 1)
    else if c = ':' ∧ depth = 0 ∧ isColon before cs.head? then
      match nested with
      | 0 => some ([], cs)
      | n + 1 => more n
    else more nested

def ifBlock (condition onTrue onFalse : List Char) : List Char :=
  "(if truthy(".toList ++ condition ++ ") \x7b ".toList ++ onTrue ++ " \x7d else \x7b ".toList ++
    onFalse ++ " \x7d)".toList

/-- Desugars the conditionals and logic of a part without commas and semicolons. A `?` without its
`:` leaves the part as it is. -/
def desugarPart : Nat → List Char → List Char
  | 0, cs => cs
  | fuel + 1, cs =>
    match splitQuestion? 0 none cs with
    | none => desugarLogic cs
    | some (front, rest) =>
      match splitColon? 0 0 (some '?') rest with
      | none => cs
      | some (onTrue, onFalse) =>
        let (head, condition) := splitHead front
        head ++ gap head ++
          ifBlock (desugarLogic (trim condition)) (trim (desugarPart fuel onTrue))
            (trim (desugarPart fuel onFalse)) ++
          trailingBlanks onFalse

/-- Applies a function inside every bracket group that is not part of another one. -/
def mapGroups (f : List Char → List Char) : List Char → List Char :=
  replaceAll fun _ cs =>
    (group? cs).map fun (inside, closer, _) =>
      (cs.take 1 ++ f inside ++ [closer], inside.length + 2)

/-- Applies a function to every part between commas and semicolons. -/
def mapParts (f : List Char → List Char) (cs : List Char) : List Char :=
  let (part, parts) := splitSequence 0 cs
  f part ++ parts.flatMap fun (mark, part) => mark :: f part

/-- Desugars a text down to a depth of nested groups. -/
def desugarGroups : Nat → List Char → List Char
  | 0, cs => cs
  | fuel + 1, cs =>
    mapParts (fun part => desugarPart (part.length + 1) part) (mapGroups (desugarGroups fuel) cs)

def desugarConditionals (cs : List Char) : List Char := desugarGroups (cs.length + 1) cs

end FormulaSheet.Desugaring
