import FormulaSheet.Calendar.Date
import FormulaSheet.Number.Numeral

/-!
Reading dates. A text is tried against a list of patterns, such as `yyyy/M/d`; the first pattern
that it fits and that gives a day of the calendar decides.
-/

namespace FormulaSheet

namespace Calendar

/-- A part of a pattern: a field of a fixed number of digits, a month or day of one or two, or a
character that stands for itself. -/
inductive Part where
  | year (digits : Nat)
  | month (fixed : Bool)
  | day (fixed : Bool)
  | mark (c : Char)
  deriving DecidableEq, Repr

/-- The fields found so far, as texts. -/
structure Found where
  year : Option (List Char) := none
  month : Option (List Char) := none
  day : Option (List Char) := none

/-- Exactly `n` digits of any script. -/
def takeDigits? (n : Nat) (cs : List Char) : Option (List Char × List Char) :=
  let ds := cs.take n
  if ds.length = n ∧ ds.all Text.isDigit then some (ds, cs.drop n) else none

/-- Two digits, or when not `fixed` also one. -/
def takeShort? (fixed : Bool) (cs : List Char) : Option (List Char × List Char) :=
  match takeDigits? 2 cs with
  | some found => some found
  | none => if fixed then none else takeDigits? 1 cs

/-- Fits a whole text to the parts of a pattern. -/
def fit? : List Part → Found → List Char → Option Found
  | [], found, [] => some found
  | [], _, _ :: _ => none
  | .year n :: parts, found, cs =>
    match takeDigits? n cs with
    | some (ds, rest) => fit? parts { found with year := some ds } rest
    | none => none
  | .month fixed :: parts, found, cs =>
    match takeShort? fixed cs with
    | some (ds, rest) => fit? parts { found with month := some ds } rest
    | none => none
  | .day fixed :: parts, found, cs =>
    match takeShort? fixed cs with
    | some (ds, rest) => fit? parts { found with day := some ds } rest
    | none => none
  | .mark _ :: _, _, [] => none
  | .mark m :: parts, found, c :: cs => if c = m then fit? parts found cs else none

/-- The parts of a pattern written as `yyyy/MM/dd`: `yyyy` and `yy` are years, `MM` and `dd` take
two digits, `M` and `d` one or two. -/
def partsOf : List Char → List Part
  | 'y' :: 'y' :: 'y' :: 'y' :: cs => .year 4 :: partsOf cs
  | 'y' :: 'y' :: cs => .year 2 :: partsOf cs
  | 'M' :: 'M' :: cs => .month true :: partsOf cs
  | 'M' :: cs => .month false :: partsOf cs
  | 'd' :: 'd' :: cs => .day true :: partsOf cs
  | 'd' :: cs => .day false :: partsOf cs
  | c :: cs => .mark c :: partsOf cs
  | [] => []

/-- The known patterns, the first to be tried first. -/
def patterns : List String :=
  ["yyyy/MM/dd", "yyyy/M/d", "yyyy-MM-dd", "yyyy-M-d", "yyyy.MM.dd", "yyyy.M.d", "yyyyMMdd",
   "M/d/yy", "M/d", "M-d", "M.d", "yyyy年M月d日", "M月d日"]

/-- The number that digits denote; only the digits `0` to `9` have a value. -/
def fieldValue? (ds : List Char) : Option Nat :=
  if ds.all Text.isAsciiDigit then some (Number.ofDigits ds) else none

/-- The year that a pattern's field names: four digits are the year itself, two are one of
1969 to 2068, and a pattern without a year means the current one. -/
def yearOf? (today : Date) (found : Found) : Option Int :=
  match found.year with
  | none => some today.year
  | some ds =>
    (fieldValue? ds).map fun n =>
      if ds.length = 2 then (if n < 69 then (2000 + n : Nat) else (1900 + n : Nat)) else n

/-- The day that one pattern finds in a trimmed text. -/
def readWith? (today : Date) (cs : List Char) (pattern : List Part) : Option Date :=
  match fit? pattern {} cs with
  | none => none
  | some found =>
    match yearOf? today found, found.month.bind fieldValue?, found.day.bind fieldValue? with
    | some year, some month, some day => Date.ofYmd? year month day
    | _, _, _ => none

end Calendar

open Calendar in
/-- Reads a date, blanks at the ends aside. Patterns without a year take it from `today`. -/
def Date.ofText? (today : Date) (text : String) : Option Date :=
  let cs := Number.trimmed text.toList
  (patterns.map fun p => partsOf p.toList).findSome? (readWith? today cs)

end FormulaSheet
