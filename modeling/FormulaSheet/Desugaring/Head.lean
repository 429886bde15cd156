import FormulaSheet.Desugaring.Words

/-!
Heads of expressions. What stands before the value that a condition or an operator works on does
not belong to it: the head of a closure, `return`, and the target of an assignment.
-/

namespace FormulaSheet.Desugaring

/-- The length of a closure's parameter list at the front, from bar to bar, blanks before it
included. -/
def barsLength? (cs : List Char) : Option Nat :=
  match trimStart cs with
  | '|' :: rest =>
    let inside := rest.takeWhile (· != '|')
    if inside.length = rest.length then none
    else some (cs.length - rest.length + inside.length + 1)
  | _ => none

/-- The length up to the last bar outside brackets and before any `||` or `&&`, counted from
`here`. -/
def lastBarFrom (depth here : Nat) (last : Option Nat) : List Char → Option Nat
  | [] => last
  | c :: cs =>
    if depth = 0 ∧ (c = '|' ∨ c = '&') ∧ cs.head? = some c then last
    else
      let last := if depth = 0 ∧ c = '|' then some (here + 1) else last
      lastBarFrom (depthAfter c depth) (here + 1) last cs

/-- The length of `return` at the front when a blank follows, blanks before it included. -/
def returnLength? (cs : List Char) : Option Nat :=
  (after? "return".toList (trimStart cs)).bind fun rest =>
    if (rest.head?).any Text.isBlank then some (cs.length - rest.length) else none

def isTargetChar (c : Char) : Bool :=
  Text.isWord c || c == '.' || c == '@' || c == '[' || c == ']'

/-- A name with members and indices, and blanks after it. -/
def isPath : List Char → Bool
  | [] => false
  | c :: cs => (Text.isAsciiLetter c || c == '_') && (cs.dropWhile isTargetChar).all Text.isBlank

/-- What follows a word and the blanks after it; at least one is needed. -/
def afterWord? (word cs : List Char) : Option (List Char) :=
  (after? word cs).bind fun rest =>
    if (rest.head?).any Text.isBlank then some (trimStart rest) else none

/-- The target of an assignment: a path, perhaps declared by `let` or `const`. -/
def isTarget (cs : List Char) : Bool :=
  let cs := trimStart cs
  isPath cs || (afterWord? "let".toList cs).any isPath || (afterWord? "const".toList cs).any isPath

def isUpdateMark (c : Char) : Bool := c == '+' || c == '-' || c == '*' || c == '/' || c == '%'

/-- The length of an assignment's target and sign; `before` is the text before a place, backwards,
and only the first `=` outside brackets counts. -/
def assignmentFrom? (depth : Nat) (before : List Char) : List Char → Option Nat
  | [] => none
  | c :: cs =>
    if c = '=' ∧ depth = 0 then
      let compares := before.head?.any fun b => b == '=' || b == '!' || b == '<' || b == '>'
      if cs.head? = some '=' ∨ compares then none
      else
        let target := match before with
          | b :: rest => if isUpdateMark b then rest else before
          | [] => []
        if isTarget target.reverse then some (before.length + 1) else none
    else assignmentFrom? (depthAfter c depth) (c :: before) cs

/-- The length of the first thing at the front that does not belong to the value. -/
def headLength? (cs : List Char) : Option Nat :=
  barsLength? cs <|> lastBarFrom 0 0 none cs <|> returnLength? cs <|> assignmentFrom? 0 [] cs

/-- Splits a text into its head and the value; `fuel` bounds the parts of the head. -/
def splitHeadWith : Nat → List Char → List Char × List Char
  | 0, cs => ([], cs)
  | fuel + 1, cs =>
    match headLength? cs with
    | some n =>
      let (head, value) := splitHeadWith fuel (cs.drop n)
      (cs.take n ++ head, value)
    | none => ([], cs)

def splitHead (cs : List Char) : List Char × List Char := splitHeadWith cs.length cs

/-- A blank where a head needs one before what follows. -/
def gap (head : List Char) : List Char :=
  match head.getLast? with
  | some c => if Text.isBlank c then [] else [' ']
  | none => []

end FormulaSheet.Desugaring
