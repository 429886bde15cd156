import FormulaSheet.Number.Numeral
import FormulaSheet.Script.Value

/-!
Values of cells. A formula gives one from the value of its script, a script gets one back when it
reads a property, and `display` is the text that a cell shows.
-/

namespace FormulaSheet

/-- What a cell holds once its formula is evaluated. -/
inductive CellValue where
  | null
  | bool (b : Bool)
  | number (x : Float)
  | text (s : String)
  | date (d : Date)
  | list (items : List CellValue)
  /-- A label and what is done when the button is pressed. -/
  | button (label : String) (action : Script.Action Script.Value)
  /-- Any other value of a script, by its printed form. -/
  | other (printed : String)
  deriving Inhabited

namespace CellValue

def isNull : CellValue → Bool
  | .null => true
  | _ => false

/-- The action of a button together with the cells of the script that it comes from. -/
def closed (cells : Array Script.Value) (action : Script.Action Script.Value) :
    Script.Action Script.Value :=
  { action with cells := some (action.cells.getD cells) }

mutual

/-- The value of a script that has ended with some shared cells. -/
def ofScript (cells : Array Script.Value) : Script.Value → CellValue
  | .unit => .null
  | .bool b => .bool b
  | .int n => .number (Float.ofInt n)
  | .float x => .number x
  | .char c => .text c.toString
  | .text s => .text s
  | .date d => .date d
  | .button label action => .button label (closed cells action)
  | .array ⟨items⟩ => .list (ofScripts cells items)
  | v => .other (v.print .result)

def ofScripts (cells : Array Script.Value) : List Script.Value → List CellValue
  | [] => []
  | v :: vs => ofScript cells v :: ofScripts cells vs

end

/-- Numbers below this size become whole numbers of scripts when they are whole. -/
def wholeLimit : Float := 9.0e15

/-- A whole number of scripts where that loses nothing. -/
def numberToScript (x : Float) : Script.Value :=
  match Number.Binary.ofFloat? x with
  | some b => if b.isWhole && x.abs < wholeLimit then .int b.truncated else .float x
  | none => .float x

mutual

/-- The value as a script sees it. -/
def toScript : CellValue → Script.Value
  | .null => .unit
  | .bool b => .bool b
  | .number x => numberToScript x
  | .text s => .text s
  | .date d => .date d
  | .list items => .array ⟨toScripts items⟩
  | .button label action => .button label action
  | .other s => .text s

def toScripts : List CellValue → List Script.Value
  | [] => []
  | v :: vs => v.toScript :: toScripts vs

end

mutual

/-- The text that a cell shows: nothing for null and for numbers that are not finite, and the
items of a list between commas. -/
def display : CellValue → String
  | .null => ""
  | .bool b => if b then "true" else "false"
  | .number x => if x.isFinite then Number.display x else ""
  | .text s => s
  | .date d => d.display
  | .list items => String.intercalate "," (displays items)
  | .button label _ => label
  | .other s => s

def displays : List CellValue → List String
  | [] => []
  | v :: vs => v.display :: displays vs

end

mutual

/-- Equality of values: numbers are compared as numbers, so that not-a-number equals nothing, and
buttons by their labels and the names of what they call. -/
def equal : CellValue → CellValue → Bool
  | .null, .null => true
  | .bool a, .bool b => a == b
  | .number x, .number y => x == y
  | .text s, .text t => s == t
  | .date d, .date e => d == e
  | .list xs, .list ys => equalAll xs ys
  | .button label action, .button label' action' =>
    label == label' && action.callback == action'.callback
  | .other s, .other t => s == t
  | _, _ => false

def equalAll : List CellValue → List CellValue → Bool
  | [], [] => true
  | x :: xs, y :: ys => x.equal y && equalAll xs ys
  | _, _ => false

end

instance : BEq CellValue := ⟨equal⟩

end CellValue

end FormulaSheet
