import FormulaSheet.Pattern.Escape

/-!
Reading classes in brackets, which may hold ranges, other classes and combinations of them.
-/

namespace FormulaSheet.Pattern.Reader

/-- How two sets in brackets are combined. -/
inductive Combination where
  | intersection
  | difference
  | exclusive

def Combination.apply : Combination → Charset → Charset → Charset
  | .intersection, s, t => .inter s t
  | .difference, s, t => .difference s t
  | .exclusive, s, t => .exclusive s t

/-- A class so far: the set before the last combination, if there is one, and the items since. -/
structure Bracket where
  before : Option (Charset × Combination) := none
  items : Charset := .none

namespace Bracket

def add (b : Bracket) (s : Charset) : Bracket := { b with items := .union b.items s }

def combined (f : Flags) (b : Bracket) : Charset :=
  match b.before with
  | none => b.items
  | some (s, how) => how.apply (withCase f s) (withCase f b.items)

def combine (f : Flags) (b : Bracket) (how : Combination) : Bracket :=
  { before := some (b.combined f, how) }

end Bracket

/-- A class between colons, such as `[:alpha:]`, from after its bracket on. -/
def asciiClass : Reader (Option Charset) := do
  require (← accept ":")
  let negated ← accept "^"
  let name ← takeWhile (· != ':')
  require (← accept ":]")
  match Charset.ofAsciiName? (String.ofList name) with
  | some s => return some (if negated then .complement s else s)
  | none => return none

/-- A character or a class inside of brackets. -/
def bracketItem : Reader (Except Charset Char) := do
  let c ← next
  if c = '\\' then
    match ← escape with
    | .literal c => return .ok c
    | .set s => return .error s
    | .place _ => refuse
  else return .ok c

/-- The character that ends a range, unless the hyphen that comes next stands for itself or for a
difference. -/
def rangeFollows : Reader Bool := do
  let s ← get
  match s.ahead with
  | '-' :: rest =>
    let rest := if s.flags.ignoreBlanks then withoutBlanks false rest else rest
    return rest.head? != some ']' && rest.head? != some '-'
  | _ => return false

/-- A range, a character or a class inside of brackets. -/
def bracketRange : Reader Charset := do
  let first ← bracketItem
  skipBlanks
  require (← peek?).isSome
  if ← rangeFollows then
    let _ ← nextWithin
    match first, ← bracketItem with
    | .ok a, .ok b => require (a ≤ b); return .range a b
    | _, _ => refuse
  else
    match first with
    | .ok c => return .ofChar c
    | .error s => return s

/-- Reads the items of a class up to its end, with `nested` for classes inside of it. -/
def bracketItems (nested : Reader Charset) : Nat → Bracket → Reader Charset
  | 0, _ => refuse
  | fuel + 1, b => do
    skipBlanks
    let f ← flags
    if ← accept "]" then return b.combined f
    else if ← accept "&&" then bracketItems nested fuel (b.combine f .intersection)
    else if ← accept "--" then bracketItems nested fuel (b.combine f .difference)
    else if ← accept "~~" then bracketItems nested fuel (b.combine f .exclusive)
    else if ← accept "[" then
      match ← orBack asciiClass with
      | some s => bracketItems nested fuel (b.add s)
      | none => do let s ← nested; bracketItems nested fuel (b.add s)
    else do let s ← bracketRange; bracketItems nested fuel (b.add s)

/-- Hyphens at the start of a class. -/
def leadingHyphens : Nat → Bracket → Reader Bracket
  | 0, b => return b
  | fuel + 1, b => do
    if (← peek?) == some '-' then
      let _ ← nextWithin
      leadingHyphens fuel (b.add (.ofChar '-'))
    else return b

/-- A class in brackets, from after its bracket on, nested so deep at most. -/
def bracket : Nat → Reader Charset
  | 0 => refuse
  | depth + 1 => do
    skipBlanks
    require (← peek?).isSome
    let negated ← if (← peek?) == some '^' then do let _ ← nextWithin; pure true else pure false
    let b ← leadingHyphens (← steps) {}
    let b ← if (← peek?) == some ']' && b.items == .none then do
        let _ ← nextWithin
        pure (b.add (.ofChar ']'))
      else pure b
    let s ← bracketItems (bracket depth) (← steps) b
    let f ← flags
    require (f.allScripts || !negated)
    let s := withCase f s
    return if negated then .complement s else s

end FormulaSheet.Pattern.Reader
