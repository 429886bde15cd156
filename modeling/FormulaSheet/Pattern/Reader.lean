import FormulaSheet.Pattern.Bracket

/-!
Reading patterns. A pattern that is not well formed is refused as a whole, and so are back
references, looking around, and patterns that are too large.
-/

namespace FormulaSheet.Pattern

namespace Reader

/-! ## Repetitions -/

/-- A count in braces, with blanks around it. -/
def count? : Reader (Option Nat) := do
  let _ ← takeWhile Text.isBlank
  let digits ← takeWhile Text.isAsciiDigit
  let _ ← takeWhile Text.isBlank
  if digits.isEmpty then return none
  let n := Number.ofDigits digits
  require (n < Nat.pow 2 32)
  return some n

/-- The bounds of a repetition, from after its brace on. -/
def bounds : Reader (Nat × Option Nat) := do
  skipBlanks
  let least ← count?
  let bounds ←
    match least with
    | none => refuse
    | some least =>
      if ← accept "," then
        skipBlanks
        if (← peek?) == some '\x7d' then pure (least, none)
        else
          match ← count? with
          | some most => require (least ≤ most); pure (least, some most)
          | none => refuse
      else pure (least, some least)
  require (← accept "\x7d")
  return bounds

/-! ## Groups -/

def isNameStart (c : Char) : Bool := c == '_' || Text.isAlphabetic c

def isNameChar (c : Char) : Bool :=
  c == '_' || c == '.' || c == '[' || c == ']' || Text.isAlphanumeric c

/-- The name of a group, up to its mark; no two groups have one name. -/
def groupName : Reader Unit := do
  let name ← takeWhile (· != '>')
  require (← accept ">")
  require (name.head?.any isNameStart && name.all isNameChar)
  require !((← get).names.contains name)
  modify fun s => { s with names := name :: s.names }

/-- The flags with one of them set or cleared. The greed of repetitions makes no difference here. -/
def Flags.set? (f : Flags) (c : Char) (on : Bool) : Option Flags :=
  match c with
  | 'i' => some { f with ignoreCase := on }
  | 'm' => some { f with multiLine := on }
  | 's' => some { f with dotAll := on }
  | 'x' => some { f with ignoreBlanks := on }
  | 'u' => some { f with allScripts := on }
  | 'R' => some { f with carriageReturns := on }
  | 'U' => some f
  | _ => none

/-- Flags as letters; those after a hyphen are cleared, and none comes twice. -/
def changedFlags (f : Flags) (on : Bool) (seen : List Char) : List Char → Option Flags
  | [] => some f
  | '-' :: cs => if on && !cs.isEmpty then changedFlags f false seen cs else none
  | c :: cs =>
    if seen.contains c then none
    else
      match Flags.set? f c on with
      | some g => changedFlags g on (c :: seen) cs
      | none => none

/-- What stands in a group: the pattern, or flags for what follows. -/
def group (inner : Reader Pattern) : Reader (Option Pattern) := do
  let s ← get
  let inside := do
    let p ← inner
    require (← accept ")")
    modify fun t => { t with flags := s.flags }
    return some p
  skipBlanks
  if ← accept "?P<" then groupName; inside
  else if (← accept "?=") || (← accept "?!") || (← accept "?<=") || (← accept "?<!") then refuse
  else if ← accept "?<" then groupName; inside
  else if ← accept "?" then
    let letters ← takeWhile fun c => c != ':' && c != ')'
    match changedFlags s.flags true [] letters with
    | none => refuse
    | some f =>
      modify fun t => { t with flags := f }
      if ← accept ":" then inside
      else
        require (← accept ")")
        require !letters.isEmpty
        return none
  else inside

/-! ## Patterns -/

/-- A pattern so far: the alternatives before, and the items of the current one, the last in front,
each with whether it can be repeated. -/
structure Progress where
  alternatives : Option Pattern := none
  items : List (Pattern × Bool) := []

namespace Progress

def push (p : Progress) (a : Pattern) : Progress := { p with items := (a, true) :: p.items }

/-- Something that matches nothing by itself and cannot be repeated. -/
def pushNothing (p : Progress) : Progress := { p with items := (.empty, false) :: p.items }

/-- The items one after the other. -/
def sequence (p : Progress) : Pattern :=
  p.items.foldl (fun later (item, _) => if later = .empty then item else item.followedBy later)
    .empty

def finish (p : Progress) : Pattern :=
  match p.alternatives with
  | none => p.sequence
  | some a => .either a p.sequence

def nextAlternative (p : Progress) : Progress := { alternatives := some p.finish }

/-- Repeats the last item. -/
def repeat? (p : Progress) (least : Nat) (most : Option Nat) : Option Progress :=
  match p.items with
  | (a, true) :: items => some { p with items := (.times a least most, true) :: items }
  | _ => none

end Progress

/-- The characters that a point matches. -/
def point (f : Flags) : Charset :=
  if f.dotAll then .any
  else if f.carriageReturns then .complement (Charset.ofChars ['\n', '\r'])
  else .complement (.ofChar '\n')

def startOf (f : Flags) : Assertion :=
  if !f.multiLine then .textStart else if f.carriageReturns then .anyLineStart else .lineStart

def endOf (f : Flags) : Assertion :=
  if !f.multiLine then .textEnd else if f.carriageReturns then .anyLineEnd else .lineEnd

/-- One item that begins with a character that has been taken. -/
def item (depth : Nat) (c : Char) : Reader Pattern := do
  let f ← flags
  match c with
  | '[' => return .one (← bracket depth)
  | '.' => require f.allScripts; return .one (point f)
  | '^' => return .place (startOf f)
  | '$' => return .place (endOf f)
  | '\\' =>
    match ← escape with
    | .literal c => return .one (withCase f (.ofChar c))
    | .set s => return .one s
    | .place a => return .place a
  | c => return .one (withCase f (.ofChar c))

/-- Repeats the last item; a question mark after the repetition changes nothing here. -/
def repeated (p : Progress) (least : Nat) (most : Option Nat) : Reader Progress :=
  match p.repeat? least most with
  | some p => do
    let _ ← accept "?"
    return p
  | none => refuse

/-- Goes on with a character that has been taken. -/
def continued (depth : Nat) (inner : Reader Pattern) (p : Progress) (c : Char) :
    Reader Progress := do
  match c with
  | '|' => return p.nextAlternative
  | '(' =>
    match ← group inner with
    | some a => return p.push a
    | none => return p.pushNothing
  | '?' => repeated p 0 (some 1)
  | '*' => repeated p 0 none
  | '+' => repeated p 1 none
  | '\x7b' =>
    let (least, most) ← bounds
    skipBlanks
    repeated p least most
  | c => return p.push (← item depth c)

/-- Reads a pattern up to its end or the end of its group, with `inner` for groups. -/
def sequence (depth : Nat) (inner : Reader Pattern) : Nat → Progress → Reader Pattern
  | 0, _ => refuse
  | fuel + 1, p => do
    skipBlanks
    match ← peek? with
    | none | some ')' => return p.finish
    | some c =>
      let _ ← next
      sequence depth inner fuel (← continued depth inner p c)

/-- Reads a pattern with groups nested so deep at most. -/
def pattern : Nat → Reader Pattern
  | 0 => refuse
  | depth + 1 => do sequence depth (pattern depth) (← steps) {}

/-- How deep groups and classes can be nested. -/
def nesting : Nat := 250

end Reader

/-! ## Size -/

namespace Charset

/-- About how many bytes a matcher needs for a set. -/
def weight : Charset → Nat
  | .range a b => if b.toNat < 128 ∨ a = b then 32 * a.utf8Size else 128
  | .wordChars | .alphabetic | .lowercase | .uppercase => 48000
  | .category .lu | .category .ll | .category .lo | .category .mn => 30000
  | .major _ => 40000
  | .digits | .category _ | .writingSystem _ | .symbol _ => 4000
  | .blanks => 600
  | .folded s | .foldedAscii s => 2 * s.weight
  | .complement s => s.weight + 400
  | .union s t | .inter s t => s.weight + t.weight

end Charset

/-- About how many bytes a matcher needs for a pattern. -/
def weight : Pattern → Nat
  | .empty => 32
  | .one s => s.weight
  | .place _ => 32
  | .both a b => a.weight + b.weight
  | .either a b => a.weight + b.weight + 64
  | .times a least most => (a.weight + 32) * (most.getD (least + 1))

/-- Patterns that need more than ten mebibytes are refused. -/
def weightLimit : Nat := 10 * 1024 * 1024

/-- Reads a pattern. -/
def compile? (flags : Flags) (source : String) : Option Pattern :=
  match Reader.pattern Reader.nesting { ahead := source.toList, flags := flags } with
  | some (p, s) => if s.ahead.isEmpty && p.weight ≤ weightLimit then some p else none
  | none => none

end FormulaSheet.Pattern
