import FormulaSheet.Desugaring.Formula
import FormulaSheet.Formula.Functions
import FormulaSheet.Script.Parser

/-!
Evaluating cells. A text that begins with `%` is a formula: it is desugared into a script and the
script is run. A formula that reads a property whose cell holds a formula evaluates that one a
level deeper, and there are only so many levels.
-/

namespace FormulaSheet

/-- The outcome of evaluating a cell: its value, or why it failed, and the tables that were asked
for on the way, the latest first. -/
structure Evaluation where
  isFormula : Bool
  value : CellValue
  failure : Option String := none
  asked : List String := []

namespace Evaluation

/-- A text that is no formula is its own value. -/
def plain (text : String) : Evaluation := { isFormula := false, value := .text text }

def failed (message : String) (asked : List String) : Evaluation :=
  { isFormula := true, value := .null, failure := some message, asked := asked }

/-- What the cell shows. -/
def display (e : Evaluation) : String :=
  match e.failure with
  | some message => "#ERR " ++ message
  | none => e.value.display

end Evaluation

namespace Formula

/-- Whether a text is a formula. -/
def isFormula (text : String) : Bool :=
  (text.toList.dropWhile Text.isBlank).head? == some '%'

/-- A text without the marks and blanks in front of a formula and the blanks after it. -/
def stripped (text : String) : String :=
  String.ofList (Number.trimmed
    (text.toList.dropWhile fun c => Text.isBlank c || c == '%'))

/-- How deep formulas may read one another. -/
def depthLimit : Nat := 4

/-- How a cell is evaluated in a context. -/
abbrev Evaluator := Context → String → Evaluation

/-- The text of a property: that of the first column of the name, when case is ignored, in the
current row. -/
def rawProperty? (c : Context) (name : String) : Option (Fields × String) :=
  match c.findColumn? name, c.currentRow? with
  | some column, some row => some (row, (row.get? column).getD "")
  | _, _ => none

/-- The value of a text that is no formula: a date where it names one. -/
def plainProperty (today : Date) (raw : String) : CellValue :=
  if raw.isEmpty then .text ""
  else
    match Date.ofText? today raw with
    | some d => .date d
    | none => .text raw

/-- The value of a property of the current row, where formulas are evaluated in that row. -/
def propertyWith (evaluate : Evaluator) (c : Context) (name : String) :
    Except String CellValue × List String :=
  match rawProperty? c name with
  | none => (.ok .null, [])
  | some (row, raw) =>
    if isFormula raw then
      let e := evaluate { c with row := some row } raw
      match e.failure with
      | some message => (.error message, e.asked)
      | none => (.ok e.value, e.asked)
    else (.ok (plainProperty c.today raw), [])

/-- The property as a script reads it. -/
def readProperty (evaluate : Evaluator) (c : Context) (name : String) : Script.Run Script.Value :=
  fun s =>
    let (r, asked) := propertyWith evaluate c name
    let s := { s with asked := asked ++ s.asked }
    match r with
    | .ok v => .ok v.toScript s
    | .error message => .error (.failed (.raised (.text message))) s

/-- The end of a run as an evaluation. -/
def outcome : EStateM.Result Script.Stop Script.State Script.Value → Evaluation
  | .ok v s => { isFormula := true, value := CellValue.ofScript s.cells v, asked := s.asked }
  | .error (.failed f) s => .failed f.message s.asked
  | .error _ s => { isFormula := true, value := .null, asked := s.asked }

/-- Runs a script in a context, with `evaluate` for formulas that it reads. -/
def runScript (evaluate : Evaluator) (c : Context) (script : String) : Evaluation :=
  let bindings := c.bindings
  match Script.Program.parse? closureFamily (bindings.map Prod.fst) script with
  | none => .failed Script.Failure.unreadable.message []
  | some program =>
    let world := world c program.functions (readProperty evaluate c)
    outcome (world.value program.body { scope := bindings.toArray })

/-- Evaluates a text with so many levels of formulas left. -/
def evaluateAt : Nat → Evaluator
  | 0, _, text =>
    if !isFormula text then .plain text
    else if (stripped text).isEmpty then .failed "empty formula" []
    else .failed "formula recursion limit reached" []
  | levels + 1, c, text =>
    if !isFormula text then .plain text
    else if (stripped text).isEmpty then .failed "empty formula" []
    else runScript (evaluateAt levels) c (Desugaring.toScript (stripped text))

/-- How many levels of formulas are left in a context. -/
def levelsIn (c : Context) : Nat := depthLimit + 1 - c.depth

/-- Evaluates the text of a cell. -/
def evaluate : Evaluator := fun c text => evaluateAt (levelsIn c) c text

/-- The value of a property of the current row. -/
def property (c : Context) (name : String) : Except String CellValue :=
  (propertyWith evaluate c name).1

end Formula

end FormulaSheet
