import FormulaSheet.Calendar.Date
import FormulaSheet.Number.Numeral

/-!
Moments in universal time, to the nanosecond, and their text: date, `T`, time of day, and a zone.
Reading is generous with blanks and with the form of the zone.
-/

namespace FormulaSheet

namespace Calendar

/-- A time of day exists: a fraction of a second and more is a leap second, which only the last
second of a minute has. -/
def IsTime (second nano : Nat) : Prop :=
  second < 86400 ∧ nano < 2000000000 ∧ (1000000000 ≤ nano → second % 60 = 59)

instance (second nano : Nat) : Decidable (IsTime second nano) :=
  inferInstanceAs (Decidable (_ ∧ _))

theorem one_le_daysInMonth (year : Int) (month : Nat) : 1 ≤ daysInMonth year month := by
  unfold daysInMonth
  split
  · split <;> omega
  all_goals omega

end Calendar

namespace Date

/-- The day after. -/
def next (d : Date) : Date :=
  if h : Calendar.IsDay d.year d.month (d.day + 1) then ⟨d.year, d.month, d.day + 1, h⟩
  else if h : d.month < 12 then
    ⟨d.year, d.month + 1, 1, by omega, by omega, by omega, Calendar.one_le_daysInMonth ..⟩
  else ⟨d.year + 1, 1, 1, by omega, by omega, by omega, Calendar.one_le_daysInMonth ..⟩

/-- The day before. -/
def previous (d : Date) : Date :=
  if h : 1 < d.day then
    ⟨d.year, d.month, d.day - 1, d.isDay.1, d.isDay.2.1, by omega,
      Nat.le_trans (Nat.sub_le ..) d.isDay.2.2.2⟩
  else if h : 1 < d.month then
    ⟨d.year, d.month - 1, Calendar.daysInMonth d.year (d.month - 1), by omega,
      Nat.le_trans (Nat.sub_le ..) d.isDay.2.1, Calendar.one_le_daysInMonth .., Nat.le_refl _⟩
  else ⟨d.year - 1, 12, 31, by omega, by omega, by omega, by simp [Calendar.daysInMonth]⟩

/-- Whether the year of a day is one that moments can have. -/
def isTold (d : Date) : Bool := -262143 ≤ d.year && d.year ≤ 262142

end Date

/-- A moment: a day, a second of it, and nanoseconds. -/
structure Instant where
  day : Date
  second : Nat
  nano : Nat
  isTime : Calendar.IsTime second nano
  isTold : day.isTold
  deriving DecidableEq

namespace Instant

def ofParts? (day : Date) (second nano : Nat) : Option Instant :=
  if h : Calendar.IsTime second nano ∧ day.isTold then some ⟨day, second, nano, h.1, h.2⟩ else none

/-- The moment that machines count from. -/
def epoch : Instant := ⟨.epoch, 0, 0, by decide, by decide⟩

instance : Inhabited Instant := ⟨epoch⟩

/-- The moment some nanoseconds after the epoch, leap seconds not counted; the epoch itself when
that is beyond the last year. -/
def ofNanoseconds (n : Nat) : Instant :=
  let seconds := n / 1000000000
  (ofParts? (Nat.repeat Date.next (seconds / 86400) .epoch) (seconds % 86400)
    (n % 1000000000)).getD epoch

/-- Whether one moment comes before another. -/
def before (a b : Instant) : Bool :=
  a.day.before b.day || (a.day == b.day &&
    decide (a.second < b.second ∨ (a.second = b.second ∧ a.nano < b.nano)))

/-! ## Written form -/

/-- A fraction of a second in three, six or nine digits, as many as it needs. -/
def fraction (nano : Nat) : List Char :=
  if nano = 0 then []
  else if nano % 1000000 = 0 then '.' :: Calendar.padded 3 (nano / 1000000)
  else if nano % 1000 = 0 then '.' :: Calendar.padded 6 (nano / 1000)
  else '.' :: Calendar.padded 9 nano

/-- Hours, minutes, seconds and fraction; a leap second is written as second sixty. -/
def clock (t : Instant) : List Char :=
  let leap := t.nano / 1000000000
  Calendar.padded 2 (t.second / 3600) ++ ':' :: Calendar.padded 2 (t.second / 60 % 60) ++
    ':' :: Calendar.padded 2 (t.second % 60 + leap) ++ fraction (t.nano % 1000000000)

/-- The moment with a text for its zone. -/
def written (zone : String) (t : Instant) : String :=
  t.day.iso ++ "T" ++ String.ofList t.clock ++ zone

/-- The form with an offset, which is always zero. -/
def display (t : Instant) : String := t.written "+00:00"

/-- The shorter form, which is kept in files. -/
def stamp (t : Instant) : String := t.written "Z"

/-! ## Reading -/

/-- Why a text is no moment. -/
inductive Fault where
  | tooShort
  | tooLong
  | invalid
  | outOfRange
  | impossible
  deriving DecidableEq, Repr

def Fault.message : Fault → String
  | .tooShort => "premature end of input"
  | .tooLong => "trailing input"
  | .invalid => "input contains invalid characters"
  | .outOfRange => "input is out of range"
  | .impossible => "no possible date and time matching input"

/-- Reads from the front of a text. -/
abbrev Scan := StateT (List Char) (Except Fault)

def refuse (fault : Fault) : Scan α := fun _ => .error fault

def require (condition : Bool) (fault : Fault) : Scan Unit :=
  if condition then pure () else refuse fault

def found (fault : Fault) : Option α → Scan α
  | some a => pure a
  | none => refuse fault

def skipBlanks : Scan Unit := modify fun cs => cs.dropWhile Text.isBlank

/-- A number of at least one digit and at most `most`. -/
def takeNumber (most : Nat) : Scan Nat := do
  let cs ← get
  let digits := (cs.take most).takeWhile Text.isAsciiDigit
  require (!cs.isEmpty) .tooShort
  require (!digits.isEmpty) .invalid
  require (Number.ofDigits digits < Nat.pow 2 63) .outOfRange
  set (cs.drop digits.length)
  return Number.ofDigits digits

/-- A number after blanks, of two digits at most and not beyond the limits. -/
def takeWithin (least most : Nat) : Scan Nat := do
  skipBlanks
  let n ← takeNumber 2
  require (least ≤ n && n ≤ most) .outOfRange
  return n

/-- A year after blanks; with a sign it can have any number of digits. -/
def takeYear : Scan Int := do
  skipBlanks
  match ← get with
  | '-' :: cs => set cs; return -(← takeNumber cs.length)
  | '+' :: cs => set cs; return (← takeNumber cs.length)
  | _ => return (← takeNumber 4)

/-- One of some characters. -/
def takeMark (isMark : Char → Bool) : Scan Unit := do
  match ← get with
  | [] => refuse .tooShort
  | c :: cs => require (isMark c) .invalid; set cs

/-- A mark between two numbers. -/
def takeDivider (mark : Char) : Scan Unit := do
  skipBlanks
  takeMark (· == mark)

/-- The nanoseconds after a point; digits after the ninth do not count. -/
def takeFraction : Scan Nat := do
  match ← get with
  | '.' :: cs =>
    set cs
    let n ← takeNumber 9
    let rest ← get
    set (rest.dropWhile Text.isAsciiDigit)
    return n * Nat.pow 10 (9 - (cs.length - rest.length))
  | _ => return 0

/-- A number of exactly two digits, the first of them below `limit` or not a digit at all. -/
def takePair (limit : Char) : Scan Nat := do
  match ← get with
  | a :: b :: cs =>
    require (Text.isAsciiDigit a && Text.isAsciiDigit b) .invalid
    require (a < limit) .outOfRange
    set cs
    return Number.ofDigits [a, b]
  | _ => refuse .tooShort

/-- Hours and minutes of an offset in minutes, with colons or blanks between them or nothing. -/
def takeOffset : Scan Nat := do
  let hours ← takePair ':'
  modify fun cs => cs.dropWhile fun c => c == ':' || Text.isBlank c
  let minutes ← takePair '6'
  return 60 * hours + minutes

/-- A zone as minutes ahead of universal time. -/
def takeZone : Scan Int := do
  match ← get with
  | [] => refuse .tooShort
  | c :: cs =>
    if ((c :: cs).take 3).map Char.toLower = "utc".toList then set (cs.drop 2); return 0
    else
      set cs
      match c with
      | 'Z' | 'z' => return 0
      | '+' => return (← takeOffset)
      | '-' | '−' => return -(← takeOffset)
      | _ => refuse .invalid

/-- Year, month and day. -/
def takeDay : Scan (Int × Nat × Nat) := do
  let year ← takeYear
  require (-Int.pow 2 31 ≤ year && year < Nat.pow 2 31) .outOfRange
  takeDivider '-'
  let month ← takeWithin 1 12
  takeDivider '-'
  let day ← takeWithin 1 31
  return (year, month, day)

/-- A time of day as seconds and nanoseconds. -/
def takeClock : Scan (Nat × Nat) := do
  let hour ← takeWithin 0 23
  takeDivider ':'
  let minute ← takeWithin 0 59
  takeDivider ':'
  let second ← takeWithin 0 60
  let nano ← takeFraction
  let leap := second / 60
  return (3600 * hour + 60 * minute + second - leap, nano + 1000000000 * leap)

/-- Moves a local time to universal time. -/
def unzoned (day : Date) (second nano : Nat) (ahead : Int) : Scan Instant := do
  require (ahead.natAbs < 1440) .outOfRange
  let moved : Int := second - 60 * ahead
  let (day, moved) :=
    if moved < 0 then (day.previous, moved + 86400)
    else if 86400 ≤ moved then (day.next, moved - 86400)
    else (day, moved)
  require day.isTold .impossible
  found .outOfRange (ofParts? day moved.toNat nano)

/-- A moment with blanks around it. -/
def takeInstant : Scan Instant := do
  let (year, month, day) ← takeDay
  takeMark fun c => c == 'T' || c == 't' || c == ' '
  let (second, nano) ← takeClock
  skipBlanks
  let ahead ← takeZone
  skipBlanks
  require (← get).isEmpty .tooLong
  let day ← found .outOfRange (Date.ofYmd? year month day)
  require day.isTold .outOfRange
  unzoned day second nano ahead

/-- Reads a moment. -/
def ofText (text : String) : Except Fault Instant := takeInstant.run' text.toList

end Instant

end FormulaSheet
