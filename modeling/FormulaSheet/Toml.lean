import FormulaSheet.Number.Numeral
import FormulaSheet.Text.Table

/-!
The part of TOML notation that settings need: lines that give a whole number or a text to a plain
key. Anything else is refused, also what other documents may hold.
-/

namespace FormulaSheet.Toml

inductive Value where
  | whole (n : Int)
  | text (s : String)
  deriving DecidableEq, Repr

abbrev Reader := StateT (List Char) Option

def refuse : Reader α := fun _ => none

def require (condition : Bool) : Reader Unit := if condition then pure () else refuse

def accept (prefixText : String) : Reader Bool := do
  let cs ← get
  if prefixText.toList.isPrefixOf cs then
    set (cs.drop prefixText.length)
    return true
  else return false

/-- The characters from here on that have a property. -/
def takeWhile (p : Char → Bool) : Reader (List Char) := do
  let cs ← get
  set (cs.dropWhile p)
  return cs.takeWhile p

def skipBlanks : Reader Unit := do
  let _ ← takeWhile fun c => c == ' ' || c == '\t'

def acceptLineEnd : Reader Bool := do
  if ← accept "\n" then return true else accept "\r\n"

/-- Characters that can stand in texts and comments as they are. -/
def isPlain (c : Char) : Bool := c == '\t' || (32 ≤ c.toNat && c.toNat != 127)

/-! ## Texts -/

def charOf? (n : Nat) : Option Char := if h : n.isValidChar then some (.ofNatAux n h) else none

/-- A character by its code in so many digits. -/
def codeEscape (digits : Nat) : Reader Char := do
  let cs ← get
  require (digits ≤ cs.length)
  set (cs.drop digits)
  match Number.wholeInBase? 16 (cs.take digits) 0 with
  | some n =>
    match charOf? n with
    | some c => return c
    | none => refuse
  | none => refuse

/-- What stands after a backslash. -/
def escape : Reader Char := do
  match ← get with
  | [] => refuse
  | c :: cs =>
    set cs
    match c with
    | 'b' => return Char.ofNat 8
    | 't' => return '\t'
    | 'n' => return '\n'
    | 'f' => return Char.ofNat 12
    | 'r' => return '\r'
    | '"' => return '"'
    | '\\' => return '\\'
    | 'u' => codeEscape 4
    | 'U' => codeEscape 8
    | _ => refuse

/-- The rest of a text on one line, with the characters before it, the last one in front. -/
def lineText (mark : Char) : Nat → List Char → Reader String
  | 0, _ => refuse
  | fuel + 1, before => do
    match ← get with
    | [] => refuse
    | c :: cs =>
      set cs
      if c = mark then return String.ofList before.reverse
      else if c = '\\' ∧ mark = '"' then lineText mark fuel ((← escape) :: before)
      else
        require (isPlain c)
        lineText mark fuel (c :: before)

/-- After a backslash at the end of a line, blanks and lines that hold nothing else are passed
over. -/
def acceptFoldedLine : Reader Bool := do
  let cs ← get
  skipBlanks
  if ← acceptLineEnd then
    modify fun cs => cs.dropWhile fun c => c == ' ' || c == '\t' || c == '\n' || c == '\r'
    return true
  else
    set cs
    return false

/-- The rest of a text on several lines. Up to two marks can stand before the closing three. -/
def blockText (mark : Char) : Nat → List Char → Reader String
  | 0, _ => refuse
  | fuel + 1, before => do
    let cs ← get
    let marks := (cs.take 5).takeWhile (· == mark)
    if 3 ≤ marks.length then
      set (cs.drop marks.length)
      return String.ofList (before.reverse ++ marks.drop 3)
    else if ← acceptLineEnd then blockText mark fuel ('\n' :: before)
    else
      match cs with
      | [] => refuse
      | c :: cs =>
        set cs
        if c = '\\' ∧ mark = '"' then
          if ← acceptFoldedLine then blockText mark fuel before
          else blockText mark fuel ((← escape) :: before)
        else
          require (isPlain c)
          blockText mark fuel (c :: before)

def steps : Reader Nat := return (← get).length + 1

/-- A text between its marks. -/
def quoted (mark : Char) : Reader String := do
  let three := String.ofList [mark, mark, mark]
  if ← accept three then
    let _ ← acceptLineEnd
    blockText mark (← steps) []
  else
    let _ ← accept (String.ofList [mark])
    lineText mark (← steps) []

/-! ## Numbers -/

/-- Digits with single underscores between them, without these. -/
def digits (isDigit : Char → Bool) : Reader (List Char) := do
  let cs ← takeWhile fun c => isDigit c || c == '_'
  let groups := (String.ofList cs).splitOn "_"
  require (groups.all fun g => !g.isEmpty)
  return cs.filter (· != '_')

/-- A whole number of 64 bits. -/
def whole (n : Int) : Reader Value := do
  require (-Int.pow 2 63 ≤ n && n < Nat.pow 2 63)
  return .whole n

/-- A number after the mark of its base. -/
def wholeInBase (base : Nat) : Reader Value := do
  let ds ← digits fun c => ((Number.digitValue? c).getD base) < base
  match Number.wholeInBase? base ds 0 with
  | some n => whole n
  | none => refuse

def number : Reader Value := do
  if ← accept "0x" then wholeInBase 16
  else if ← accept "0o" then wholeInBase 8
  else if ← accept "0b" then wholeInBase 2
  else
    let isNegative ← accept "-"
    if !isNegative then let _ ← accept "+"
    let ds ← digits Text.isAsciiDigit
    require (ds.length = 1 || ds.head? != some '0')
    let n : Int := Number.ofDigits ds
    whole (if isNegative then -n else n)

/-! ## Documents -/

def value : Reader Value := do
  match (← get).head? with
  | some '"' => return .text (← quoted '"')
  | some '\'' => return .text (← quoted '\'')
  | _ => number

def isKeyChar (c : Char) : Bool := Text.isAsciiAlphanumeric c || c == '_' || c == '-'

def key : Reader String := do
  match (← get).head? with
  | some '"' | some '\'' =>
    let mark := ((← get).head?).getD '"'
    let _ ← accept (String.ofList [mark])
    lineText mark (← steps) []
  | _ =>
    let cs ← takeWhile isKeyChar
    require !cs.isEmpty
    return String.ofList cs

/-- The end of a line, with a comment before it. -/
def lineEnd : Reader Unit := do
  skipBlanks
  if ← accept "#" then
    let _ ← takeWhile isPlain
  if !(← get).isEmpty then require (← acceptLineEnd)

/-- The assignments from here on; no key comes twice. -/
def lines : Nat → List (String × Value) → Reader (List (String × Value))
  | 0, _ => refuse
  | fuel + 1, found => do
    skipBlanks
    match ← get with
    | [] => return found
    | c :: _ =>
      if c = '#' ∨ c = '\n' ∨ c = '\r' then
        lineEnd
        lines fuel found
      else
        let name ← key
        skipBlanks
        require (← accept "=")
        skipBlanks
        let v ← value
        lineEnd
        require !(found.any fun f => f.1 == name)
        lines fuel (found ++ [(name, v)])

/-- The assignments of a document. -/
def assignments? (text : String) : Option (List (String × Value)) :=
  let cs := match text.toList with
    | c :: cs => if c.toNat = 0xFEFF then cs else c :: cs
    | [] => []
  ((lines (cs.length + 1) []).run cs).map Prod.fst

end FormulaSheet.Toml
