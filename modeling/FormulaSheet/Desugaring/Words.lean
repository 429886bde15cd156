import FormulaSheet.Desugaring.Scan

/-!
Words and marks that are written differently in scripts: strict comparisons, `null`, `var`,
`console.log`, the namespaces `Math` and `_`, and the heads of arrow functions.
-/

namespace FormulaSheet.Desugaring

/-- Whether a word may begin here: no word character stands before. -/
def startsWord (before : Option Char) : Bool := !before.any Text.isWord

/-- Whether a word has ended: none of its characters follows. -/
def endsWord (rest : List Char) : Bool := !(rest.head?).any Text.isWord

/-- Replaces a whole word. -/
def wordRule (word new : List Char) : Rule := fun before cs =>
  if startsWord before then
    (after? word cs).bind fun rest => if endsWord rest then some (new, word.length) else none
  else none

/-- What follows a point, with the blanks on both sides of it. -/
def afterPoint? (cs : List Char) : Option (List Char) :=
  match trimStart cs with
  | '.' :: rest => some (trimStart rest)
  | _ => none

/-- `console.log(` prints. -/
def logRule : Rule := fun before cs =>
  if startsWord before then do
    let rest ← after? "console".toList cs
    let rest ← after? "log".toList (← afterPoint? rest)
    let rest ← after? ['('] (trimStart rest)
    return ("print(".toList, cs.length - rest.length)
  else none

/-- `Math.` names a namespace. -/
def mathRule : Rule := fun before cs =>
  if startsWord before then do
    let rest ← after? "Math".toList cs
    let rest ← afterPoint? rest
    return ("Math::".toList, cs.length - rest.length)
  else none

/-- `_.` names the namespace of aggregates, unless a name or a point ends just before it. The
character before it is part of the place. -/
def aggregateRule : Rule := fun before cs =>
  let name := fun (kept cs : List Char) => do
    let rest ← after? ['_'] cs
    let rest ← afterPoint? rest
    return (kept ++ "agg::".toList, rest.length)
  let atStart := if before.isNone then name [] cs else none
  let place := atStart <|> match cs with
    | c :: rest => if Text.isWord c || c == '.' then none else name [c] rest
    | [] => none
  place.map fun (new, left) => (new, cs.length - left)

/-- An identifier at the front of a text: a letter or underscore, then word characters. -/
def identifier? : List Char → Option (List Char × List Char)
  | [] => none
  | c :: cs =>
    if Text.isAsciiLetter c || c == '_' then
      let (more, rest) := cs.span Text.isWord
      some (c :: more, rest)
    else none

/-- Further parameters, each after a comma; `fuel` bounds their number. -/
def moreParameters : Nat → List Char → List (List Char) × List Char
  | 0, cs => ([], cs)
  | fuel + 1, cs =>
    match trimStart cs with
    | ',' :: rest =>
      match identifier? (trimStart rest) with
      | some (name, rest) =>
        let (names, rest) := moreParameters fuel rest
        (name :: names, rest)
      | none => ([], cs)
    | _ => ([], cs)

/-- The parameters between the brackets of an arrow function. -/
def parameters (cs : List Char) : List (List Char) × List Char :=
  match identifier? (trimStart cs) with
  | some (name, rest) =>
    let (names, rest) := moreParameters rest.length rest
    (name :: names, rest)
  | none => ([], cs)

/-- `(a, b) =>` heads a closure. -/
def arrowListRule : Rule := fun _ cs => do
  let rest ← after? ['('] cs
  let (names, rest) := parameters rest
  let rest ← after? [')'] (trimStart rest)
  let rest ← after? ['=', '>'] (trimStart rest)
  return ('|' :: List.intercalate [',', ' '] names ++ ['|'], cs.length - rest.length)

/-- `a =>` heads a closure. -/
def arrowRule : Rule := fun before cs =>
  if startsWord before then do
    let (name, rest) ← identifier? cs
    let rest ← after? ['=', '>'] (trimStart rest)
    return ('|' :: name ++ ['|'], cs.length - rest.length)
  else none

/-- Desugars words and marks, one kind after the other. -/
def desugarWords (cs : List Char) : List Char :=
  let cs := replaceText ['!', '=', '='] ['!', '='] cs
  let cs := replaceText ['=', '=', '='] ['=', '='] cs
  let cs := replaceAll (fun before cs =>
    wordRule "null".toList ['(', ')'] before cs <|>
      wordRule "undefined".toList ['(', ')'] before cs) cs
  let cs := replaceAll (wordRule "var".toList "let".toList) cs
  let cs := replaceAll logRule cs
  let cs := replaceAll mathRule cs
  let cs := replaceAll aggregateRule cs
  let cs := replaceAll arrowListRule cs
  replaceAll arrowRule cs

end FormulaSheet.Desugaring
