import FormulaSheet.Text.Classes

/-!
Scans of formula text: replacing what a rule recognises, bracket groups, and the parts of a text
that stand outside all brackets.
-/

namespace FormulaSheet.Desugaring

/-- A rule looks at the character before a place and at the text from there on. Where it applies
it gives a replacement and the number of characters replaced. -/
abbrev Rule := Option Char → List Char → Option (List Char × Nat)

/-- Applies a rule from left to right wherever it fits; `skip` characters are still part of the
last place where it did. -/
def replaceFrom (rule : Rule) : Option Char → Nat → List Char → List Char
  | _, _, [] => []
  | _, skip + 1, c :: cs => replaceFrom rule (some c) skip cs
  | before, 0, c :: cs =>
    match rule before (c :: cs) with
    | some (new, n) => new ++ replaceFrom rule (some c) (n - 1) cs
    | none => c :: replaceFrom rule (some c) 0 cs

/-- Replaces every place where a rule applies. -/
def replaceAll (rule : Rule) (cs : List Char) : List Char := replaceFrom rule none 0 cs

/-- What follows a given text at the front of another one. -/
def after? : List Char → List Char → Option (List Char)
  | [], cs => some cs
  | _ :: _, [] => none
  | p :: ps, c :: cs => if p = c then after? ps cs else none

/-- Replaces a text by another one wherever it stands. -/
def replaceText (old new : List Char) : List Char → List Char :=
  replaceAll fun _ cs => (after? old cs).map fun _ => (new, old.length)

def trimStart (cs : List Char) : List Char := cs.dropWhile Text.isBlank

def trimEnd (cs : List Char) : List Char := (cs.reverse.dropWhile Text.isBlank).reverse

def trim (cs : List Char) : List Char := trimEnd (trimStart cs)

/-- The blanks at the end of a text, the last one first. -/
def trailingBlanks (cs : List Char) : List Char := cs.reverse.takeWhile Text.isBlank

/-- A letter or digit of any script, or an underscore. -/
def isNameChar (c : Char) : Bool := Text.isAlphanumeric c || c == '_'

/-- The bracket that closes a group. -/
def closer? : Char → Option Char
  | '(' => some ')'
  | '[' => some ']'
  | '{' => some '}'
  | _ => none

def isOpener (c : Char) : Bool := c == '(' || c == '[' || c == '{'

def isCloser (c : Char) : Bool := c == ')' || c == ']' || c == '}'

/-- Splits a text at the bracket that closes the outermost of the open groups, whose closing
brackets are listed from the inside out. -/
def splitClosed? (closers : List Char) : List Char → Option (List Char × Char × List Char)
  | [] => none
  | c :: cs =>
    let more := fun closers => (splitClosed? closers cs).map fun (a, d, b) => (c :: a, d, b)
    match closer? c with
    | some d => more (d :: closers)
    | none =>
      if isCloser c then
        match closers with
        | [] => none
        | [d] => if c = d then some ([], c, cs) else none
        | d :: closers => if c = d then more closers else none
      else more closers

/-- The bracket group at the front of a text: what it holds, its closing bracket and what follows.
There is none if a bracket inside is closed by one of another kind. -/
def group? : List Char → Option (List Char × Char × List Char)
  | [] => none
  | c :: cs => (closer? c).bind fun d => splitClosed? [d] cs

/-- The depth after a character; it never falls below zero. -/
def depthAfter (c : Char) (depth : Nat) : Nat :=
  if isOpener c then depth + 1 else if isCloser c then depth - 1 else depth

/-- Cuts a text at the commas and semicolons outside all brackets: the first part, and every
further part with the mark before it. -/
def splitSequence (depth : Nat) : List Char → List Char × List (Char × List Char)
  | [] => ([], [])
  | c :: cs =>
    if depth = 0 ∧ (c = ',' ∨ c = ';') then
      let (part, parts) := splitSequence 0 cs
      ([], (c, part) :: parts)
    else
      let (part, parts) := splitSequence (depthAfter c depth) cs
      (c :: part, parts)

/-- Cuts a text at every pair of marks outside all brackets that has more than blanks before it;
`part` holds the open part backwards. -/
def splitPairs (mark : Char) (depth : Nat) (part : List Char) : List Char → List (List Char)
  | [] => [part.reverse]
  | [c] => [(c :: part).reverse]
  | c :: d :: cs =>
    if depth = 0 ∧ c = mark ∧ d = mark ∧ !part.all Text.isBlank then
      part.reverse :: splitPairs mark 0 [] cs
    else splitPairs mark (depthAfter c depth) (c :: part) (d :: cs)

end FormulaSheet.Desugaring
