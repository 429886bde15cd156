import FormulaSheet.Calendar.Date
import FormulaSheet.Number.Decimal
import FormulaSheet.Script.Term
import FormulaSheet.Text.Category

/-!
Values of the script language and their printed forms. Lists are arrays, maps are lists of entries
sorted by key; whole numbers have sixty-four bits.
-/

namespace FormulaSheet.Script

/-- A function to be called later: its name, the arguments it is already given, the functions of
the script that it comes from, and the cells of that script once it has ended. -/
structure Action (V : Type) where
  callback : String
  given : List V
  functions : List Function
  cells : Option (Array V) := none

inductive Value where
  | unit
  | bool (b : Bool)
  | int (n : Int)
  | float (x : Float)
  | char (c : Char)
  | text (s : String)
  | array (items : Array Value)
  | map (entries : List (String × Value))
  | date (d : Date)
  /-- A label, and what is done when the button is pressed. -/
  | button (label : String) (action : Action Value)
  /-- A function by its name, and the arguments it is already given. -/
  | function (name : String) (given : List Value)
  | range (start stop : Int) (closed : Bool)
  /-- Items that a loop can run over but that have no other use. -/
  | sequence (list : List Value)
  /-- A variable that several functions share, by its place. -/
  | shared (cell : Nat)
  deriving Inhabited

/-- The kinds of values. -/
inductive Kind where
  | unit | bool | int | float | char | text | array | map | date | button | function
  | range | closedRange | sequence | shared
  deriving DecidableEq, Repr

namespace Value

def kind : Value → Kind
  | .unit => .unit
  | .bool _ => .bool
  | .int _ => .int
  | .float _ => .float
  | .char _ => .char
  | .text _ => .text
  | .array _ => .array
  | .map _ => .map
  | .date _ => .date
  | .button .. => .button
  | .function .. => .function
  | .range _ _ false => .range
  | .range _ _ true => .closedRange
  | .sequence _ => .sequence
  | .shared _ => .shared

end Value

/-- The name of a kind in scripts. -/
def Kind.name : Kind → String
  | .unit => "()"
  | .bool => "bool"
  | .int => "i64"
  | .float => "f64"
  | .char => "char"
  | .text => "string"
  | .array => "array"
  | .map => "map"
  | .date => "Date"
  | .button => "Button"
  | .function => "Fn"
  | .range => "range"
  | .closedRange => "range="
  | .sequence => "iterator"
  | .shared => "shared"

/-! ## Maps -/

namespace Entries

def get? (entries : List (String × Value)) (key : String) : Option Value :=
  (entries.find? fun e => e.1 == key).map Prod.snd

/-- Puts a value under a key; the entries stay sorted. -/
def insert (key : String) (v : Value) : List (String × Value) → List (String × Value)
  | [] => [(key, v)]
  | (k, w) :: rest =>
    if key < k then (key, v) :: (k, w) :: rest
    else if key = k then (key, v) :: rest
    else (k, w) :: insert key v rest

def ofList (entries : List (String × Value)) : List (String × Value) :=
  entries.foldl (fun es e => insert e.1 e.2 es) []

def erase (key : String) (entries : List (String × Value)) : List (String × Value) :=
  entries.filter fun e => e.1 != key

end Entries

/-! ## Printed forms -/

/-- Numbers beyond these sizes are printed with an exponent on their own. -/
private def plainLimits : Float × Float := (9999999827968.0, 1.00000001168609742e-7)

/-- A number with a fraction, on its own: at least one place, or an exponent when it is very large
or very small. -/
def floatText (x : Float) : String :=
  let size := x.abs
  if x == 0.0 then "0.0"
  else if size > plainLimits.1 || size < plainLimits.2 then Number.scientific x
  else if Number.isWhole x then Number.positional x ++ ".0"
  else Number.positional x

/-- A number with a fraction inside of something. -/
def floatTextInside (x : Float) : String :=
  let size := x.abs
  if x == 0.0 then (if x.toBits = 0 then "0.0" else "-0.0")
  else if size.isFinite && (size ≥ 1e16 || size < 1e-4) then Number.scientific x
  else if Number.isWhole x then Number.positional x ++ ".0"
  else Number.positional x

/-- Whether a character shows as itself between quotes. -/
def isPlain (c : Char) : Bool :=
  match Text.Category.of c with
  | .cc | .cf | .cs | .co | .cn | .zl | .zp | .mn | .me => false
  | .zs => c == ' '
  | _ => true

/-- A character between quotes. -/
def escaped (quote c : Char) : List Char :=
  if c = quote ∨ c = '\\' then ['\\', c]
  else if c = '\n' then ['\\', 'n']
  else if c = '\r' then ['\\', 'r']
  else if c = '\t' then ['\\', 't']
  else if c = Char.ofNat 0 then ['\\', '0']
  else if isPlain c then [c]
  else "\\u\x7b".toList ++ Nat.toDigits 16 c.toNat ++ ['\x7d']

def quotedText (s : String) : String :=
  String.ofList ('"' :: s.toList.flatMap (escaped '"') ++ ['"'])

def quotedChar (c : Char) : String := String.ofList ('\'' :: escaped '\'' c ++ ['\''])

/-- How values without a written form are printed inside of others. -/
structure Printer where
  date : Date → String
  button : String → String

/-- The form in which scripts print dates and buttons inside of other values. -/
def Printer.script : Printer := ⟨Date.display, fun _ => "Button"⟩

/-- The form that results keep: dates and buttons are shown by the names of their types. -/
def Printer.result : Printer :=
  ⟨fun _ => "chrono::naive::date::NaiveDate",
   fun _ => "rowsheet_engine::engine::value::ButtonAction"⟩

namespace Value

mutual

/-- The printed form of a value inside of another one. -/
def inside (p : Printer) : Value → String
  | .unit => "()"
  | .bool b => toString b
  | .int n => toString n
  | .float x => floatTextInside x
  | .char c => quotedChar c
  | .text s => quotedText s
  | .array ⟨items⟩ => "[" ++ String.intercalate ", " (insideAll p items) ++ "]"
  | .map entries => "#\x7b" ++ String.intercalate ", " (insideEntries p entries) ++ "\x7d"
  | .date d => p.date d
  | .button label .. => p.button label
  | .function name _ => "Fn(" ++ name ++ ")"
  | .range a b closed => toString a ++ (if closed then "..=" else "..") ++ toString b
  | .sequence _ => "iterator"
  | .shared _ => "()"

def insideAll (p : Printer) : List Value → List String
  | [] => []
  | v :: vs => v.inside p :: insideAll p vs

def insideEntries (p : Printer) : List (String × Value) → List String
  | [] => []
  | (k, v) :: rest => (quotedText k ++ ": " ++ v.inside p) :: insideEntries p rest

end

/-- The printed form of a value on its own. -/
def print (p : Printer) : Value → String
  | .unit => ""
  | .float x => floatText x
  | .char c => c.toString
  | .text s => s
  | v => v.inside p

/-- What scripts see when a value is joined to text. -/
def scriptText : Value → String
  | .button label .. => label
  | v => v.print .script

mutual

/-- The characters, array items and map entries that a value holds altogether. -/
def sizes : Value → Nat × Nat × Nat
  | .text s => (s.utf8ByteSize, 0, 0)
  | .array ⟨items⟩ =>
    let (a, b, c) := sizesAll items
    (a, b + items.length, c)
  | .map entries =>
    let (a, b, c) := sizesEntries entries
    (a, b, c + entries.length)
  | _ => (0, 0, 0)

def sizesAll : List Value → Nat × Nat × Nat
  | [] => (0, 0, 0)
  | v :: vs =>
    let (a, b, c) := v.sizes
    let (d, e, f) := sizesAll vs
    (a + d, b + e, c + f)

def sizesEntries : List (String × Value) → Nat × Nat × Nat
  | [] => (0, 0, 0)
  | (_, v) :: rest =>
    let (a, b, c) := v.sizes
    let (d, e, f) := sizesEntries rest
    (a + d, b + e, c + f)

end

end Value

end FormulaSheet.Script
