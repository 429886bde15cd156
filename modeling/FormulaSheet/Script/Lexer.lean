import FormulaSheet.Number.Numeral
import FormulaSheet.Script.Token

/-!
Reading scripts as tokens. Templates between backticks hold blocks of code: reading such a block
ends at its own closing brace, after which the text of the template goes on. Blanks and comments
separate tokens.
-/

namespace FormulaSheet.Script.Lexer

def isNameStart (c : Char) : Bool := Text.isAsciiLetter c || c == '_'

def isNameChar (c : Char) : Bool := Text.isAsciiAlphanumeric c || c == '_'

/-- A word at the front; names need a letter after their leading underscores. -/
def word? (cs : List Char) : Option (Token × List Char) :=
  let (w, rest) := cs.span isNameChar
  if w = ['_'] then some (.mark "_", rest)
  else if ((w.dropWhile (· == '_')).head?).any Text.isAsciiLetter then
    some (.ofWord (String.ofList w), rest)
  else none

/-- The characters of a decimal number at the front without separators, given those read so far
backwards. A point belongs to it unless a name, another point or nothing follows, an exponent only
if digits or a sign follow. -/
def numberChars (done : List Char) : List Char → List Char × List Char
  | [] => (done.reverse, [])
  | [c] =>
    if Text.isAsciiDigit c then ((c :: done).reverse, [])
    else if c = '_' then (done.reverse, [])
    else (done.reverse, [c])
  | c :: d :: cs =>
    if Text.isAsciiDigit c then numberChars (c :: done) (d :: cs)
    else if c = '_' then numberChars done (d :: cs)
    else if c = '.' then
      if Text.isAsciiDigit d then numberChars ('.' :: done) (d :: cs)
      else if isNameStart d || d == '.' then (done.reverse, c :: d :: cs)
      else numberChars ('0' :: '.' :: done) (d :: cs)
    else if c = 'e' then
      if Text.isAsciiDigit d then numberChars ('e' :: done) (d :: cs)
      else if d = '+' ∨ d = '-' then numberChars (d :: 'e' :: done) cs
      else (done.reverse, c :: d :: cs)
    else (done.reverse, c :: d :: cs)

/-- The digits of a number with a base at the front, separators left out. -/
def baseDigits (base : Nat) (cs : List Char) : List Char × List Char :=
  let isDigit := fun c => c == '_' || (Number.digitValue? c).any (· < base)
  let (ds, rest) := cs.span isDigit
  (ds.filter (· != '_'), rest)

/-- A whole number of sixty-four bits, the upper half negative. -/
def wrapped (n : Nat) : Int := if n < Nat.pow 2 63 then n else (n : Int) - Nat.pow 2 64

def baseNumber? (base : Nat) (cs : List Char) : Option (Token × List Char) :=
  let (ds, rest) := baseDigits base cs
  if ds.isEmpty then none
  else (Number.wholeInBase? base ds 0).bind fun n =>
    if n < Nat.pow 2 64 then some (.int (wrapped n), rest) else none

/-- A number at the front. A whole number that is too large becomes a fraction. -/
def number? : List Char → Option (Token × List Char)
  | '0' :: 'x' :: cs | '0' :: 'X' :: cs => baseNumber? 16 cs
  | '0' :: 'o' :: cs | '0' :: 'O' :: cs => baseNumber? 8 cs
  | '0' :: 'b' :: cs | '0' :: 'B' :: cs => baseNumber? 2 cs
  | cs =>
    let (shown, rest) := numberChars [] cs
    let whole := Number.ofDigits shown
    if shown.all Text.isAsciiDigit ∧ whole < Nat.pow 2 63 then some (.int whole, rest)
    else (Number.Numeral.ofChars? shown).map fun n => (.float n.toFloat, rest)

/-- The character of `width` hexadecimal digits at the front. -/
def hexChar? (width : Nat) (cs : List Char) : Option (Char × List Char) :=
  let ds := cs.take width
  if ds.length = width then
    (Number.wholeInBase? 16 ds 0).bind fun n =>
      if n.isValidChar then some (Char.ofNat n, cs.drop width) else none
  else none

/-- The character that a backslash and what follows it stand for. -/
def escape? : List Char → Option (Char × List Char)
  | [] => none
  | c :: cs =>
    match c with
    | 't' => some ('\t', cs)
    | 'n' => some ('\n', cs)
    | 'r' => some ('\r', cs)
    | '\\' => some ('\\', cs)
    | '"' => some ('"', cs)
    | '\'' => some ('\'', cs)
    | 'x' => hexChar? 2 cs
    | 'u' => hexChar? 4 cs
    | 'U' => hexChar? 8 cs
    | _ => none

/-- The rest of a quoted text, after `done` read backwards. The quote doubled stands for itself;
a backslash at the end of a line joins it with the next one, without the blanks that begin it. -/
def quoted? (quote : Char) : Nat → List Char → List Char → Option (List Char × List Char)
  | 0, _, _ => none
  | _, _, [] => none
  | fuel + 1, done, c :: cs =>
    if c = '\\' then
      match cs with
      | '\n' :: rest =>
        quoted? quote fuel done (rest.dropWhile fun b => Text.isBlank b && b != '\n')
      | _ =>
        match escape? cs with
        | some (e, rest) => quoted? quote fuel (e :: done) rest
        | none => none
    else if c = quote then
      if cs.head? = some quote then quoted? quote fuel (c :: done) (cs.drop 1)
      else some (done.reverse, cs)
    else if c = '\n' then none
    else quoted? quote fuel (c :: done) cs

/-- How a stretch of template text ends. -/
inductive Ending where
  | block
  | template

/-- Template text up to an embedded block or the closing backtick. -/
def template? (done : List Char) : List Char → Option (List Char × Ending × List Char)
  | [] => none
  | '`' :: '`' :: cs => template? ('`' :: done) cs
  | '`' :: cs => some (done.reverse, .template, cs)
  | '$' :: '\x7b' :: cs => some (done.reverse, .block, '\x7b' :: cs)
  | c :: cs => template? (c :: done) cs

/-- Text between a quote and the same number of hash marks on both sides. -/
def raw? (hashes : Nat) (done : List Char) : List Char → Option (List Char × List Char)
  | [] => none
  | c :: cs =>
    if c = '"' ∧ (cs.take hashes).length = hashes ∧ (cs.take hashes).all (· == '#') then
      some (done.reverse, cs.drop hashes)
    else raw? hashes (c :: done) cs

/-- What follows a comment that may hold others. -/
def afterComment (depth : Nat) : List Char → List Char
  | [] => []
  | '*' :: '/' :: cs =>
    match depth with
    | 0 => cs
    | depth + 1 => afterComment depth cs
  | '/' :: '*' :: cs => afterComment (depth + 1) cs
  | _ :: cs => afterComment depth cs

/-- The first of some marks that a text begins with. -/
def mark? (marks : List String) (cs : List Char) : Option (String × List Char) :=
  (marks.find? fun m => m.toList.isPrefixOf cs).map fun m => (m, cs.drop m.length)

/-- `!in` as a whole word. -/
def notIn? : List Char → Option (List Char)
  | '!' :: 'i' :: 'n' :: rest => if (rest.head?).any isNameChar then none else some rest
  | _ => none

/-- A mark at the front, reserved ones included where they are longer. -/
def symbol? (cs : List Char) : Option (Token × List Char) :=
  match notIn? cs with
  | some rest => some (.mark "!in", rest)
  | none =>
    match mark? Token.marks cs, mark? Token.reservedMarks cs with
    | some (m, rest), some (r, rest') =>
      if m.length < r.length then some (.reserved r, rest') else some (.mark m, rest)
    | some (m, rest), none => some (.mark m, rest)
    | none, some (r, rest) => some (.reserved r, rest)
    | none, none => none

/-- Tokens read so far, backwards, and how many braces are open in each embedded block, the
innermost first. -/
structure Progress where
  tokens : List Token := []
  blocks : List Nat := []

namespace Progress

def push (p : Progress) (t : Token) : Progress := { p with tokens := t :: p.tokens }

/-- Takes note of a brace that opens inside an embedded block. -/
def opened (p : Progress) : Progress :=
  match p.blocks with
  | n :: rest => { p with blocks := (n + 1) :: rest }
  | [] => p

end Progress

/-- Goes on with the text of a template. -/
def readTemplate? (p : Progress) (cs : List Char) : Option (Progress × List Char) :=
  match template? [] cs with
  | some (s, .template, rest) => some (p.push (.text (String.ofList s)), rest)
  | some (s, .block, rest) =>
    some ({ p.push (.piece (String.ofList s)) with blocks := 0 :: p.blocks }, rest)
  | none => none

/-- Takes one token, blank or comment off the front. -/
def step? (p : Progress) : List Char → Option (Progress × List Char)
  | [] => some (p, [])
  | c :: cs =>
    let token := fun (found : Option (Token × List Char)) =>
      found.map fun (t, rest) => (p.push t, rest)
    if Text.isBlank c then some (p, cs)
    else if Text.isAsciiDigit c then token (number? (c :: cs))
    else if isNameStart c then token (word? (c :: cs))
    else
      match c, cs with
      | '/', '/' :: rest => some (p, rest.dropWhile (· != '\n'))
      | '/', '*' :: rest => some (p, afterComment 0 rest)
      | '"', _ =>
        (quoted? '"' (cs.length + 1) [] cs).map fun (s, rest) =>
          (p.push (.text (String.ofList s)), rest)
      | '\'', _ =>
        match quoted? '\'' (cs.length + 1) [] cs with
        | some ([d], rest) => some (p.push (.char d), rest)
        | _ => none
      | '`', _ =>
        match cs with
        | '\r' :: '\n' :: rest | '\n' :: rest => readTemplate? p rest
        | _ => readTemplate? p cs
      | '#', '\x7b' :: rest => some ((p.push (.mark "#\x7b")).opened, rest)
      | '#', _ =>
        let hashes := (cs.takeWhile (· == '#')).length + 1
        match cs.drop (hashes - 1) with
        | '"' :: rest =>
          (raw? hashes [] rest).map fun (s, rest) => (p.push (.text (String.ofList s)), rest)
        | _ => token (symbol? (c :: cs))
      | '\x7b', _ => some ((p.push (.mark "\x7b")).opened, cs)
      | '\x7d', _ =>
        match p.blocks with
        | 1 :: rest => readTemplate? { p.push (.mark "\x7d") with blocks := rest } cs
        | n :: rest => some ({ p.push (.mark "\x7d") with blocks := (n - 1) :: rest }, cs)
        | [] => some (p.push (.mark "\x7d"), cs)
      | _, _ => token (symbol? (c :: cs))

/-- Reads to the end of the text; every step takes at least one character. -/
def readAll? : Nat → Progress → List Char → Option (List Token)
  | _, p, [] => if p.blocks.isEmpty then some p.tokens.reverse else none
  | 0, _, _ => none
  | fuel + 1, p, cs =>
    match step? p cs with
    | some (p, rest) => readAll? fuel p rest
    | none => none

/-- The tokens of a script, unless something in it is no token. -/
def tokens? (script : String) : Option (List Token) :=
  let cs := script.toList
  readAll? (cs.length + 1) {} cs

end FormulaSheet.Script.Lexer
