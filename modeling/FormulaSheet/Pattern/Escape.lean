import FormulaSheet.Pattern.Matching
import FormulaSheet.Number.Numeral

/-!
Reading the characters of patterns: the state of a reader, the flags that it reads with, and
escapes.
-/

namespace FormulaSheet.Pattern

/-- How a pattern is read. -/
structure Flags where
  ignoreCase : Bool := false
  /-- Lines have starts and ends of their own. -/
  multiLine : Bool := false
  /-- A point matches line breaks too. -/
  dotAll : Bool := false
  /-- Blanks and comments in the pattern mean nothing. -/
  ignoreBlanks : Bool := false
  /-- Classes take in the characters of all scripts. -/
  allScripts : Bool := true
  /-- Carriage returns end lines as well. -/
  carriageReturns : Bool := false
  deriving DecidableEq, Repr

namespace Reader

/-- What is still to be read, the flags in force, and the names of groups so far. -/
structure State where
  ahead : List Char
  flags : Flags
  names : List (List Char) := []

end Reader

abbrev Reader := StateT Reader.State Option

namespace Reader

def refuse : Reader α := fun _ => none

def require (condition : Bool) : Reader Unit := if condition then pure () else refuse

def flags : Reader Flags := return (← get).flags

def peek? : Reader (Option Char) := return (← get).ahead.head?

/-- The text without the blanks and comments in front. -/
def withoutBlanks (inComment : Bool) : List Char → List Char
  | [] => []
  | c :: cs =>
    if inComment then withoutBlanks (c != '\n') cs
    else if Text.isBlank c then withoutBlanks false cs
    else if c = '#' then withoutBlanks true cs
    else c :: cs

/-- Skips blanks where they mean nothing. -/
def skipBlanks : Reader Unit := modify fun s =>
  if s.flags.ignoreBlanks then { s with ahead := withoutBlanks false s.ahead } else s

/-- Takes the next character. -/
def next : Reader Char := do
  match (← get).ahead with
  | c :: cs => modify fun s => { s with ahead := cs }; return c
  | [] => refuse

/-- Takes the next character and the blanks after it, where something has to follow. -/
def nextWithin : Reader Char := do
  let c ← next
  skipBlanks
  require (← peek?).isSome
  return c

/-- Takes a text if it comes next. -/
def accept (text : String) : Reader Bool := do
  let s ← get
  if text.toList.isPrefixOf s.ahead then
    set { s with ahead := s.ahead.drop text.length }
    return true
  else return false

/-- The characters from here on that have a property. -/
def takeWhile (p : Char → Bool) : Reader (List Char) := do
  let s ← get
  set { s with ahead := s.ahead.dropWhile p }
  return s.ahead.takeWhile p

/-- Goes back to where `s` was, unless a reader succeeds. -/
def orBack (p : Reader (Option α)) : Reader (Option α) := fun s =>
  match p s with
  | some (some a, t) => some (some a, t)
  | _ => some (none, s)

/-- How many steps a loop over what is ahead can take. -/
def steps : Reader Nat := return (← get).ahead.length + 1

/-! ## Escapes -/

/-- What an escape stands for. -/
inductive Escape where
  | literal (c : Char)
  | set (s : Charset)
  | place (a : Assertion)

/-- A set with its variants in case, where case is ignored. -/
def withCase (f : Flags) (s : Charset) : Charset :=
  if f.ignoreCase then (if f.allScripts then .folded s else .foldedAscii s) else s

def wordOf (f : Flags) : Charset := if f.allScripts then .wordChars else Charset.asciiWord

/-- The classes `d`, `s` and `w`; their complements are in capitals and need all scripts. -/
def classOfLetter? (f : Flags) (c : Char) : Option Charset :=
  let named : Char → Option Charset
    | 'd' => some (if f.allScripts then .digits else .range '0' '9')
    | 's' => some (if f.allScripts then .blanks else Charset.asciiBlanks)
    | 'w' => some (wordOf f)
    | _ => none
  match named c with
  | some s => some s
  | none => if f.allScripts then (named c.toLower).map .complement else none

/-- The character of a code, if it is one. -/
def charOf? (n : Nat) : Option Char := if h : n.isValidChar then some (.ofNatAux n h) else none

def hexOf (digits : List Char) : Reader Char :=
  match Number.wholeInBase? 16 digits 0 with
  | some n =>
    match charOf? n with
    | some c => pure c
    | none => refuse
  | none => refuse

/-- Exactly `n` hexadecimal digits. -/
def hexDigits : Nat → Reader (List Char)
  | 0 => return []
  | n + 1 => do
    skipBlanks
    let c ← next
    require ((Text.Table.hexDigit? c).isSome)
    return c :: (← hexDigits n)

/-- A character by its code, in braces or in exactly `n` digits. -/
def hexEscape (n : Nat) : Reader Char := do
  skipBlanks
  if ← accept "\x7b" then
    let digits ← takeWhile (· != '\x7d')
    let digits := if (← flags).ignoreBlanks then digits.filter (!Text.isBlank ·) else digits
    require (← accept "\x7d")
    require (!digits.isEmpty && digits.all fun c => (Text.Table.hexDigit? c).isSome)
    hexOf digits
  else hexOf (← hexDigits n)

/-- What stands before and after the first mark of a comparison in the name of a property: whether
it is negated, and both sides. -/
def splitProperty (cs : List Char) : Option (Bool × List Char × List Char) :=
  let (a, b) := cs.span fun c => c != '=' && c != ':'
  match b with
  | [] => none
  | '=' :: value =>
    match a.getLast? with
    | some '!' => some (true, a.dropLast, value)
    | _ => some (false, a, value)
  | _ :: value => some (false, a, value)

/-- A property of characters, by one letter or by a name in braces. -/
def propertyEscape (negated : Bool) : Reader Charset := do
  require (← flags).allScripts
  skipBlanks
  let (negated, found) ←
    if ← accept "\x7b" then
      let name ← takeWhile (· != '\x7d')
      require (← accept "\x7d")
      match splitProperty name with
      | some (n, kind, value) =>
        pure (negated != n, Charset.ofPropertyValue? (Charset.plainName kind)
          (Charset.plainName value))
      | none => pure (negated, Charset.ofPropertyName? (Charset.plainName name))
    else
      let c ← next
      require (c != '\\')
      pure (negated, Charset.ofPropertyName? (Charset.plainName [c]))
  match found with
  | none => refuse
  | some s =>
    let s := withCase (← flags) s
    return if negated then .complement s else s

def isBoundaryName (c : Char) : Bool := Text.isAsciiLetter c || c == '-'

/-- The kind of boundary that is named in braces. Braces with anything else in them are left. -/
def boundaryName? : Reader (Option (List Char)) := do
  let s ← get
  if ← accept "\x7b" then
    skipBlanks
    match ← peek? with
    | none => refuse
    | some c =>
      if isBoundaryName c then
        let name ← takeWhile isBoundaryName
        skipBlanks
        require (← accept "\x7d")
        return some name
      else
        set s
        return none
  else return none

def boundary : Reader Assertion := do
  let word := wordOf (← flags)
  match ← boundaryName? with
  | none => return .boundary word
  | some name =>
    match String.ofList name with
    | "start" => return .wordStart word
    | "end" => return .wordEnd word
    | "start-half" => return .afterNoWord word
    | "end-half" => return .beforeNoWord word
    | _ => refuse

/-- Characters that may be escaped without need. -/
def isPlainEscape (c : Char) : Bool :=
  c.toNat < 128 && !Text.isAsciiAlphanumeric c && c != '<' && c != '>'

/-- What follows a backslash. -/
def escape : Reader Escape := do
  let f ← flags
  let c ← next
  match classOfLetter? f c with
  | some s => return .set s
  | none =>
    match c with
    | 'x' => return .literal (← hexEscape 2)
    | 'u' => return .literal (← hexEscape 4)
    | 'U' => return .literal (← hexEscape 8)
    | 'p' => return .set (← propertyEscape false)
    | 'P' => return .set (← propertyEscape true)
    | 'a' => return .literal (Char.ofNat 7)
    | 'f' => return .literal (Char.ofNat 12)
    | 't' => return .literal '\t'
    | 'n' => return .literal '\n'
    | 'r' => return .literal '\r'
    | 'v' => return .literal (Char.ofNat 11)
    | 'A' => return .place .textStart
    | 'z' => return .place .textEnd
    | 'b' => return .place (← boundary)
    | 'B' => return .place (.noBoundary (wordOf f))
    | '<' => return .place (.wordStart (wordOf f))
    | '>' => return .place (.wordEnd (wordOf f))
    | c => require (isPlainEscape c); return .literal c

end Reader

end FormulaSheet.Pattern
