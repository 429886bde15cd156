/-!
Calendar dates of the Gregorian calendar, with the year of any sign. A `Date` is valid by
construction; `dayNumber` counts days from 1970-01-01.
-/

namespace FormulaSheet

namespace Calendar

def isLeap (year : Int) : Bool :=
  year % 4 == 0 && (year % 100 != 0 || year % 400 == 0)

def daysInMonth (year : Int) (month : Nat) : Nat :=
  match month with
  | 2 => if isLeap year then 29 else 28
  | 4 | 6 | 9 | 11 => 30
  | _ => 31

theorem daysInMonth_le (year : Int) (month : Nat) : daysInMonth year month ≤ 31 := by
  unfold daysInMonth
  split
  · split <;> omega
  all_goals omega

/-- The month exists and the day exists in it. -/
def IsDay (year : Int) (month day : Nat) : Prop :=
  1 ≤ month ∧ month ≤ 12 ∧ 1 ≤ day ∧ day ≤ daysInMonth year month

instance (year : Int) (month day : Nat) : Decidable (IsDay year month day) :=
  inferInstanceAs (Decidable (_ ∧ _))

end Calendar

/-- A day of the calendar. -/
structure Date where
  year : Int
  month : Nat
  day : Nat
  isDay : Calendar.IsDay year month day
  deriving DecidableEq

namespace Date

def ofYmd? (year : Int) (month day : Nat) : Option Date :=
  if h : Calendar.IsDay year month day then some ⟨year, month, day, h⟩ else none

/-- The first day that machines count from. -/
def epoch : Date := ⟨1970, 1, 1, by decide⟩

instance : Inhabited Date := ⟨epoch⟩

/-- Days since the epoch; the year is counted from March so that a leap day comes last. -/
def dayNumber (d : Date) : Int :=
  let year := if d.month ≤ 2 then d.year - 1 else d.year
  let era := year / 400
  let yearOfEra := year - era * 400
  let monthFromMarch := (d.month + 9) % 12
  let dayOfYear := (153 * monthFromMarch + 2) / 5 + d.day - 1
  era * 146097 + (yearOfEra * 365 + yearOfEra / 4 - yearOfEra / 100 + dayOfYear) - 719468

/-- Whether one day comes before another. -/
def before (a b : Date) : Bool :=
  decide (a.year < b.year ∨ (a.year = b.year ∧
    (a.month < b.month ∨ (a.month = b.month ∧ a.day < b.day))))

/-- Whether the anniversary of a day comes earlier in the year than that of another. -/
def anniversaryBefore (a b : Date) : Bool :=
  decide (a.month < b.month ∨ (a.month = b.month ∧ a.day < b.day))

/-- Whole years from one day to another, negative when the first is later. -/
def yearsBetween (start stop : Date) : Int :=
  let years := stop.year - start.year
  if years > 0 ∧ stop.anniversaryBefore start then years - 1
  else if years < 0 ∧ start.anniversaryBefore stop then years + 1
  else years

end Date

namespace Calendar

/-- Decimal digits with zeros in front up to a width. -/
def padded (width n : Nat) : List Char :=
  let cs := Nat.toDigits 10 n
  List.replicate (width - cs.length) '0' ++ cs

/-- A year in at least four digits, with a sign outside `0..9999`. -/
def yearText (year : Int) : List Char :=
  if year < 0 then '-' :: padded 4 year.natAbs
  else if year > 9999 then '+' :: padded 4 year.natAbs
  else padded 4 year.natAbs

/-- Year, month and day around a mark. -/
def dateText (mark : Char) (d : Date) : String :=
  String.ofList (yearText d.year ++ mark :: padded 2 d.month ++ mark :: padded 2 d.day)

end Calendar

/-- How a date is shown: `yyyy/MM/dd`. -/
def Date.display (d : Date) : String := Calendar.dateText '/' d

/-- The international form `yyyy-MM-dd`. -/
def Date.iso (d : Date) : String := Calendar.dateText '-' d

end FormulaSheet
