import FormulaSheet.Formula.Context
import FormulaSheet.Formula.Namespaces
import FormulaSheet.Formula.Operators
import FormulaSheet.Script.Evaluator

/-!
The functions that formulas find ready: conversions, functions of texts and lists, and those that
look at the table.
-/

namespace FormulaSheet.Formula

open Script

/-! ## Conversions -/

/-- Places after the point that a number can be shown with. -/
def placeLimit : Int := 20

/-- The number with exactly so many places. -/
def toFixed (v : Value) (places : Int) : Except Failure Value :=
  if 0 ≤ places ∧ places ≤ placeLimit then .ok (.text (Number.fixed v.number places.toNat))
  else .error (.raised (.text "toFixed() digits must be between 0 and 20"))

def parseInt (v : Value) : Float :=
  let x := v.leadingNumber
  if x.isFinite then Number.trunc x else x

def conversion? (today : Date) (name : String) (args : List Value) :
    Option (Except Failure Value) :=
  match name, args with
  | "truthy", [v] => some (.ok (.bool v.truthy))
  | "Number", [v] => some (.ok (.float v.number))
  | "String", [v] => some (.ok (.text v.shown))
  | "parseFloat", [v] => some (.ok (.float v.leadingNumber))
  | "parseInt", [v] => some (.ok (.float (parseInt v)))
  | "parseNumber", [v] => some (.ok ((Number.ofDisplayed? v.shown).elim .unit .float))
  | "isNaN", [v] => some (.ok (.bool v.number.isNaN))
  | "date", [v] => some (.ok ((v.date? today).elim .unit .date))
  | "toFixed", [v, .int places] => some (toFixed v places)
  | "-", [.text s] => some (.ok (.float (-(Value.text s).number)))
  | _, _ => none

/-! ## Texts and lists -/

def joined (items : Array Value) (between : String) : String :=
  String.intercalate between (items.toList.map Value.shown)

def collection? (name : String) (args : List Value) : Option Value :=
  match name, args with
  | "includes", [.array items, v] => some (.bool (items.any fun w => w.looselyEqual v))
  | "includes", [.text s, .text t] => some (.bool (Texts.contains t.toList s.toList))
  | "join", [.array items, .text between] => some (.text (joined items between))
  | "join", [.array items] => some (.text (joined items ","))
  | "toUpperCase", [.text s] => some (.text (Text.toUpper s))
  | "toLowerCase", [.text s] => some (.text (Text.toLower s))
  | "startsWith", [.text s, .text t] => some (.bool (t.toList.isPrefixOf s.toList))
  | "endsWith", [.text s, .text t] => some (.bool (t.toList.isSuffixOf s.toList))
  | _, _ => none

/-- Members that formulas give to values. -/
def member : Members
  | .array items, "length" => some (.int items.size)
  | .text s, "length" => some (.int s.length)
  | .date d, "year" => some (.int d.year)
  | .date d, "month" => some (.int d.month)
  | .date d, "day" => some (.int d.day)
  | .button label _, "label" => some (.text label)
  | _, _ => none

/-! ## The table -/

/-- The sum of the column that the formula stands in, zero if it stands in none. -/
def columnSum (c : Context) : Float :=
  if c.currentColumn?.isNone then 0.0
  else sum (c.columnTexts.map fun t => Number.ofText (t.getD ""))

/-- How many cells of the column hold exactly the shown text of a value. -/
def columnCount (c : Context) (v : Value) : Nat := c.columnTexts.count (some v.shown)

/-- Whole years from a date to the current day. -/
def age (today : Date) (v : Value) : Except Failure Value :=
  match v.date? today with
  | some d => .ok (.int (d.yearsBetween today))
  | none => .error (.raised (.text "age() expects a date"))

/-- Looks another table up; which one was asked for is kept. -/
def linkedTable (c : Context) (reference : String) : Run Value :=
  match LinkedTable.idOf? reference with
  | none => return .unit
  | some id => do
    modify fun s => { s with asked := id :: s.asked }
    return ((c.lookup id).map LinkedTable.toScript).getD .unit

/-- The functions that look at the table; `property` reads a property of the current row. -/
def tableFunction? (c : Context) (functions : List Function) (property : String → Run Value)
    (name : String) (args : List Value) : Option (Run Value) :=
  match name, args with
  | "prop", [.text name] | "my", [.text name] => some (property name)
  | "sum", [] => some (pure (.float (columnSum c)))
  | "count", [v] => some (pure (.int (columnCount c v)))
  | "today", [] => some (pure (.text c.today.display))
  | "age", [v] => some (Run.ofExcept (age c.today v))
  | "button", [label, .function callback given] =>
    some (pure (.button label.shown ⟨callback, given, functions, none⟩))
  | "table", [.text reference] => some (linkedTable c reference)
  | _, _ => none

/-- A function of formulas. -/
def function? (c : Context) (functions : List Function) (property : String → Run Value)
    (name : String) (args : List Value) : Option (Run Effect) :=
  let found : Option (Run Value) :=
    match conversion? c.today name args with
    | some r => some (Run.ofExcept r)
    | none =>
      match collection? name args with
      | some v => some (pure v)
      | none => tableFunction? c functions property name args
  found.map fun run => do return ⟨← run, none⟩

/-- The family of the functions without names. -/
def closureFamily : String := "anon$"

/-- The world of the script of a formula. -/
def world (c : Context) (functions : List Function) (property : String → Run Value) : World where
  functions := functions
  family := closureFamily
  host :=
    { function? := function? c functions property
      pathFunction? := pathFunction?
      constant? := constant?
      member := member
      overload := overload }

end FormulaSheet.Formula
