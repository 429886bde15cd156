/-!
Character tables. A table is written as the text of a data file: entries separated by blanks or
line breaks, code points in hexadecimal. It is decoded once, into arrays that are searched by
bisection.
-/

namespace FormulaSheet.Text.Table

/-- The value of a hexadecimal digit. -/
def hexDigit? (c : Char) : Option Nat :=
  if '0' ≤ c ∧ c ≤ '9' then some (c.toNat - 48)
  else if 'a' ≤ c ∧ c ≤ 'f' then some (c.toNat - 87)
  else if 'A' ≤ c ∧ c ≤ 'F' then some (c.toNat - 55)
  else none

/-- Reads hexadecimal digits off the front and returns their value with what follows. -/
def takeHex : List Char → Nat → Nat × List Char
  | [], n => (n, [])
  | c :: cs, n =>
    match hexDigit? c with
    | some d => takeHex cs (16 * n + d)
    | none => (n, c :: cs)

/-- The pieces of a text between its blanks. -/
def entries (text : String) : List (List Char) :=
  let step := fun (c : Char) (acc : List Char × List (List Char)) =>
    if c = ' ' ∨ c = '\n' then ([], acc.1 :: acc.2) else (c :: acc.1, acc.2)
  let (first, rest) := text.toList.foldr step ([], [])
  (first :: rest).filter fun e => !e.isEmpty

/-- How many of the sorted `starts` are at most `n`, searched between `lo` and `hi`. -/
def countAtMost (starts : Array Nat) (n : Nat) : Nat → Nat → Nat → Nat
  | 0, lo, _ => lo
  | fuel + 1, lo, hi =>
    if hi ≤ lo then lo
    else
      let mid := (lo + hi) / 2
      if starts.getD mid 0 ≤ n then countAtMost starts n fuel (mid + 1) hi
      else countAtMost starts n fuel lo mid

/-- The index of the last of the sorted `starts` that is at most `n`. -/
def lastAtMost? (starts : Array Nat) (n : Nat) : Option Nat :=
  match countAtMost starts n (starts.size + 1) 0 starts.size with
  | 0 => none
  | k + 1 => some k

/-- A set of code points as sorted, disjoint, inclusive ranges. -/
structure Ranges where
  starts : Array Nat
  ends : Array Nat

namespace Ranges

/-- Decodes entries such as `41-5a` and `aa`. -/
def decode (text : String) : Ranges :=
  let pairs := (entries text).map fun e =>
    match takeHex e 0 with
    | (a, '-' :: rest) => (a, (takeHex rest 0).1)
    | (a, _) => (a, a)
  ⟨(pairs.map Prod.fst).toArray, (pairs.map Prod.snd).toArray⟩

def contains (r : Ranges) (n : Nat) : Bool :=
  match lastAtMost? r.starts n with
  | some i => n ≤ r.ends.getD i 0
  | none => false

end Ranges

/-- A run of code points, every one or every second of `first..last`, moved by one distance. -/
structure Shift where
  first : Nat
  last : Nat
  step : Nat
  delta : Int

namespace Shift

private def decimal (cs : List Char) : Nat :=
  cs.foldl (fun n c => 10 * n + (c.toNat - 48)) 0

private def signed : List Char → Int
  | '-' :: cs => -(decimal cs : Int)
  | cs => decimal cs

/-- Decodes entries such as `41-5a:32` and, for every second code point, `100-12e/1`. -/
def decode (text : String) : Array Shift :=
  ((entries text).map fun e =>
    match takeHex e 0 with
    | (a, _ :: rest) =>
      match takeHex rest 0 with
      | (b, ':' :: d) => ⟨a, b, 1, signed d⟩
      | (b, _ :: d) => ⟨a, b, 2, signed d⟩
      | (b, []) => ⟨a, b, 1, 0⟩
    | (a, []) => ⟨a, a, 1, 0⟩).toArray

def moves (s : Shift) (n : Nat) : Bool :=
  s.first ≤ n && n ≤ s.last && (n - s.first) % s.step == 0

/-- Where a table of runs, sorted by their first code points, sends `n`. -/
def apply (table : Array Shift) (starts : Array Nat) (n : Nat) : Nat :=
  match lastAtMost? starts n with
  | some i =>
    match table[i]? with
    | some s => if s.moves n then ((n : Int) + s.delta).toNat else n
    | none => n
  | none => n

/-- The code points that a table sends to `n`. -/
def sources (table : Array Shift) (n : Nat) : List Nat :=
  table.toList.filterMap fun s =>
    let k := ((n : Int) - s.delta).toNat
    if s.moves k then some k else none

end Shift

end FormulaSheet.Text.Table
