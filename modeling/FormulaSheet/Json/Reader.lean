import FormulaSheet.Json.Fault
import FormulaSheet.Number.Decimal
import FormulaSheet.Number.Numeral
import FormulaSheet.Text.Table

/-!
Reading JSON notation: objects whose known fields hold texts. What unknown fields hold is skipped,
and has to be well formed all the same.
-/

namespace FormulaSheet.Json

abbrev Reader := StateT (List Char) (Except Fault)

namespace Reader

/-- Fails at what is to be read next. -/
def failHere (cause : Cause) : Reader α := fun cs => .error ⟨cause, cs⟩

/-- Fails behind the next character. -/
def failBehind (cause : Cause) : Reader α := fun cs => .error ⟨cause, cs.drop 1⟩

def drop (n : Nat) : Reader Unit := modify fun cs => cs.drop n

def isBlank (c : Char) : Bool := c == ' ' || c == '\n' || c == '\t' || c == '\r'

/-- The next character after blanks, which is not taken. -/
def peek : Reader (Option Char) := do
  modify fun cs => cs.dropWhile isBlank
  return (← get).head?

/-! ## Texts -/

/-- Four hexadecimal digits. -/
def hexEscape : Reader Nat := do
  match ← get with
  | a :: b :: c :: d :: _ =>
    drop 4
    match Number.wholeInBase? 16 [a, b, c, d] 0 with
    | some n => return n
    | none => failHere .invalidEscape
  | cs => drop cs.length; failHere .endInText

def isLeading (n : Nat) : Bool := 0xD800 ≤ n && n ≤ 0xDBFF

def isTrailing (n : Nat) : Bool := 0xDC00 ≤ n && n ≤ 0xDFFF

/-- Takes a character that has to come next inside an escape. -/
def within (wanted : Char) : Reader Unit := do
  match ← get with
  | [] => failHere .endInText
  | c :: _ =>
    drop 1
    if c = wanted then return () else failHere .endOfEscape

/-- The character of a code, which two units have to make up when it is a large one. -/
def codeEscape : Reader Char := do
  let n ← hexEscape
  if isTrailing n then failHere .loneSurrogate
  else if isLeading n then
    within '\\'
    within 'u'
    let m ← hexEscape
    if isTrailing m then return Char.ofNat (0x10000 + (n - 0xD800) * 0x400 + (m - 0xDC00))
    else failHere .loneSurrogate
  else return Char.ofNat n

/-- The character that a letter after a backslash stands for. -/
def ofLetter? : Char → Option Char
  | '"' => some '"'
  | '\\' => some '\\'
  | '/' => some '/'
  | 'b' => some (Char.ofNat 8)
  | 'f' => some (Char.ofNat 12)
  | 'n' => some '\n'
  | 'r' => some '\r'
  | 't' => some '\t'
  | _ => none

/-- What follows a backslash, with `code` for the characters given by their codes. -/
def escape (code : Reader Char) : Reader Char := do
  match ← get with
  | [] => failHere .endInText
  | c :: _ =>
    drop 1
    if c = 'u' then code
    else
      match ofLetter? c with
      | some d => return d
      | none => failHere .invalidEscape

/-- The rest of a text after its opening quote, the characters before it given with the last one
in front. -/
def textWith (code : Reader Char) (control : Reader String) : Nat → List Char → Reader String
  | 0, _ => failHere .endInText
  | fuel + 1, before => do
    match ← get with
    | [] => failHere .endInText
    | '"' :: _ => drop 1; return String.ofList before.reverse
    | '\\' :: _ => drop 1; textWith code control fuel ((← escape code) :: before)
    | c :: _ =>
      if c.toNat < 32 then control
      else drop 1; textWith code control fuel (c :: before)

/-- A text after its opening quote. -/
def text : Reader String := do
  textWith codeEscape (failBehind .controlCharacter) ((← get).length + 1) []

/-- Passes over a text after its opening quote, where any codes will do. -/
def skipText : Reader Unit := do
  let code := do let _ ← hexEscape; return ' '
  let _ ← textWith code (failHere .controlCharacter) ((← get).length + 1) []

/-! ## Other values -/

def skipDigits : Reader Unit := modify fun cs => cs.dropWhile Text.isAsciiDigit

/-- The exponent of a number, from its letter on. -/
def skipExponent : Reader Unit := do
  drop 1
  modify fun cs =>
    match cs with
    | '+' :: cs | '-' :: cs => cs
    | cs => cs
  match ← get with
  | [] => failHere .invalidNumber
  | c :: _ => drop 1; if Text.isAsciiDigit c then skipDigits else failHere .invalidNumber

/-- Whether an exponent comes next. -/
def atExponent : Reader Bool := do
  match ← get with
  | 'e' :: _ | 'E' :: _ => return true
  | _ => return false

/-- Passes over a number without its sign. -/
def skipNumber : Reader Unit := do
  match ← get with
  | [] => failHere .invalidNumber
  | '0' :: c :: _ => drop 1; if Text.isAsciiDigit c then failBehind .invalidNumber
  | c :: _ => drop 1; if Text.isAsciiDigit c then skipDigits else failHere .invalidNumber
  match ← get with
  | '.' :: cs =>
    drop 1
    if !(cs.head?.any Text.isAsciiDigit) then failBehind .invalidNumber
    skipDigits
  | _ => pure ()
  if ← atExponent then skipExponent

/-- Takes the rest of a word. -/
def word : List Char → Reader Unit
  | [] => pure ()
  | w :: ws => do
    match ← get with
    | [] => failHere .endInValue
    | c :: _ => drop 1; if c = w then word ws else failHere .expectedWord

/-- Passes over a value that holds no other values; tells whether there was one. -/
def skipSimple (c : Char) : Reader Bool := do
  match c with
  | 'n' => drop 1; word "ull".toList; return true
  | 't' => drop 1; word "rue".toList; return true
  | 'f' => drop 1; word "alse".toList; return true
  | '-' => drop 1; skipNumber; return true
  | '"' => drop 1; skipText; return true
  | c => if Text.isAsciiDigit c then skipNumber; return true else return false

/-- Closes lists and objects, the innermost in front, and goes on to the next value in them if
there is one. -/
def skipClosings (fresh : Bool) : List Bool → Reader (List Bool)
  | [] => return []
  | isObject :: outer => do
    match ← peek with
    | none => failBehind (if isObject then .endInObject else .endInList)
    | some c =>
      if c = (if isObject then '\x7d' else ']') then drop 1; skipClosings false outer
      else if fresh then return isObject :: outer
      else if c = ',' then drop 1; return isObject :: outer
      else failBehind (if isObject then .expectedCommaOrBrace else .expectedCommaOrBracket)

/-- The key of a value in an object, and its colon. -/
def skipKey : Reader Unit := do
  match ← peek with
  | none => failBehind .endInObject
  | some '"' => drop 1; skipText
  | some _ => failBehind .keyNotText
  match ← peek with
  | none => failBehind .endInObject
  | some ':' => drop 1
  | some _ => failBehind .expectedColon

/-- Passes over a value inside of open lists and objects. -/
def skipWithin : Nat → List Bool → Reader Unit
  | 0, _ => failHere .endInValue
  | fuel + 1, opened => do
    let goOn := fun (inner : List Bool) => do
      if inner.head? == some true then skipKey
      if !inner.isEmpty then skipWithin fuel inner
    match ← peek with
    | none => failBehind .endInValue
    | some c =>
      if c = '[' ∨ c = '\x7b' then
        drop 1
        goOn (← skipClosings true ((c == '\x7b') :: opened))
      else if ← skipSimple c then goOn (← skipClosings false opened)
      else failBehind .expectedValue

/-- Passes over a value of any kind. -/
def skipValue : Reader Unit := do skipWithin ((← get).length + 1) []

/-! ## Objects of texts -/

/-- What is told of a number of the wrong kind. -/
def numberKind (cs : List Char) : Reader String := do
  let n := (Number.Numeral.ofChars? cs).map (·.toFloat)
  if cs.all fun c => Text.isAsciiDigit c || c == '-' then
    let (negative, digits) := Number.splitSign cs
    let size := Number.ofDigits digits
    if negative && size != 0 && size ≤ Nat.pow 2 63 then return "integer `-" ++ toString size ++ "`"
    if !negative && size < Nat.pow 2 64 then return "integer `" ++ toString size ++ "`"
  match n with
  | some x =>
    if !x.isFinite then failHere .numberOutOfRange
    let shown := Number.positional x
    let whole := !shown.toList.contains '.'
    return "floating point `" ++ shown ++ (if whole then ".0" else "") ++ "`"
  | none => failHere .invalidNumber

/-- Fails on a value of another kind than the wanted one. -/
def failKind (wanted : String) : Reader α := do
  let fail := fun (found : String) => failHere (.wrongKind found wanted)
  match ← peek with
  | some 'n' => drop 1; word "ull".toList; fail "null"
  | some 't' => drop 1; word "rue".toList; fail "boolean `true`"
  | some 'f' => drop 1; word "alse".toList; fail "boolean `false`"
  | some '"' => drop 1; fail ("string " ++ String.ofList ('"' :: (← text).toList ++ ['"']))
  | some '[' => fail "sequence"
  | some '\x7b' => fail "map"
  | some c =>
    if c = '-' ∨ Text.isAsciiDigit c then
      let cs ← get
      if c = '-' then drop 1
      skipNumber
      let after ← get
      fail (← numberKind (cs.take (cs.length - after.length)))
    else failBehind .expectedValue
  | none => failBehind .endInValue

/-- What the fields of an object have to be. -/
structure Schema where
  /-- The name of the whole, as complaints tell it. -/
  name : String
  fields : List String
  /-- What a text for a field is called. -/
  kindOf : String → String
  /-- Why a field does not allow a text. -/
  complaint? : String → String → Option String

/-- The text of a field. -/
def fieldText (s : Schema) (field : String) : Reader String := do
  match ← peek with
  | none => failBehind .endInValue
  | some '"' =>
    drop 1
    let t ← text
    match s.complaint? field t with
    | some reason => failHere (.refused reason)
    | none => return t
  | some _ => failKind (s.kindOf field)

/-- Whether another member comes before the closing mark; a comma stands between two. -/
def another (closing : Char) (atEnd notComma : Cause) (isFirst : Bool) : Reader Bool := do
  match ← peek with
  | none => failBehind atEnd
  | some c =>
    if c = closing then return false
    else if isFirst then return true
    else if c = ',' then
      drop 1
      match ← peek with
      | none => failBehind .endInValue
      | some d => if d = closing then failBehind .trailingComma else return true
    else failBehind notComma

/-- The members of an object up to its closing brace, after those that were found before. -/
def members (s : Schema) : Nat → List (String × String) → Bool → Reader (List (String × String))
  | 0, _, _ => failHere .endInObject
  | fuel + 1, found, isFirst => do
    if !(← another '\x7d' .endInObject .expectedCommaOrBrace isFirst) then return found
    match ← peek with
    | some '"' => drop 1
    | _ => failBehind .keyNotText
    let key ← text
    if found.any fun f => f.1 == key then
      let _ ← peek
      failHere (.duplicate key)
    match ← peek with
    | none => failBehind .endInObject
    | some ':' => drop 1
    | some _ => failBehind .expectedColon
    if s.fields.contains key then
      let value ← fieldText s key
      members s fuel (found ++ [(key, value)]) false
    else
      skipValue
      members s fuel found false

/-- The members of a list, which are the fields in order. -/
def positions (s : Schema) : List String → Bool → Reader (List (String × String))
  | [], _ => do
    if ← another ']' .endInList .trailing false then failHere .trailing
    return []
  | field :: fields, isFirst => do
    if ← another ']' .endInList .expectedCommaOrBracket isFirst then
      let value ← fieldText s field
      return (field, value) :: (← positions s fields false)
    else
      drop 1
      failHere (.wrongLength (s.fields.length - fields.length - 1)
        (s.name ++ " with " ++ toString s.fields.length ++ " elements"))

/-- An object, or a list of its fields, with nothing but blanks around it. -/
def fieldsOf (s : Schema) : Reader (List (String × String)) := do
  let found ← match ← peek with
    | none => failBehind .endInValue
    | some '\x7b' => drop 1; members s ((← get).length + 1) [] true
    | some '[' => drop 1; positions s s.fields true
    | some _ => failKind s.name
  drop 1
  return found

/-- Nothing but blanks up to the end. -/
def finish : Reader Unit := do
  match ← peek with
  | none => return ()
  | some _ => failBehind .trailing

end Reader

end FormulaSheet.Json
