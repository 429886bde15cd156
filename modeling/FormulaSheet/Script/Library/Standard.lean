import FormulaSheet.Script.Library.Lists
import FormulaSheet.Script.Library.Numbers
import FormulaSheet.Script.Library.Texts

/-!
The standard library: a function is found by its name and the kind of its first argument.
-/

namespace FormulaSheet.Script.Standard

/-- A character in the other case, unless that takes several characters. -/
def changeCase (change : Char → List Char) (c : Char) : Value :=
  match change c with
  | [d] => .char d
  | _ => .char c

def onChar? (name : String) (c : Char) (args : List Value) : Answer :=
  match name, args with
  | "to_upper", [] => .gives (changeCase Text.upperChar c)
  | "to_lower", [] => .gives (changeCase Text.lowerChar c)
  | "to_int", [] => .gives (.int c.toNat)
  | _, _ => none

/-- Functions of any values. -/
def general? (name : String) (args : List Value) : Answer :=
  match name, args with
  | "to_string", [v] => .gives (.text v.scriptText)
  | "to_debug", [v] => .gives (.text (v.inside .script))
  | "print", [_] | "debug", [_] => .gives .unit
  | "print", [] | "debug", [] => .gives .unit
  | "type_of", [v] => .gives (.text v.kind.name)
  | "tag", [_] => .gives (.int 0)
  | "is_anonymous", [.function ..] => .gives (.bool true)
  | "name", [.function name _] => .gives (.text name)
  | "parse_int", [.text s, .int base] =>
    let (negative, ds) := Number.splitSign (Number.trimmed s.toList)
    if base < 2 ∨ base > 36 ∨ ds.isEmpty then .fails .arithmetic
    else
      match Number.wholeInBase? base.toNat ds 0 with
      | some n => some ((Operator.whole (if negative then -n else n)).map fun v => ⟨v, none⟩)
      | none => .fails .arithmetic
  | _, _ => none

/-- Functions that call no others. -/
def plain? (k : Callbacks) (name : String) (args : List Value) : Answer :=
  let own :=
    match args with
    | .text s :: rest => Texts.call? name s rest
    | .char c :: rest => onChar? name c rest
    | .array items :: rest => Lists.call? name items rest <|> Lists.compare? k name items rest
    | .map entries :: rest => Maps.call? name entries rest
    | args => Numbers.call? name args
  own <|> general? name args

/-- Functions that call a function that they are given, or end the script. -/
def calling? (k : Callbacks) (name : String) (args : List Value) : Option (Run Effect) :=
  match name, args with
  | "exit", [] => some (throw (.ended .unit))
  | "exit", [v] => some (throw (.ended v))
  | name, .array items :: rest => Lists.run? k name items rest
  | name, .map entries :: rest => Maps.run? k name entries rest
  | _, _ => none

def call? (k : Callbacks) (name : String) (args : List Value) : Option (Run Effect) :=
  match plain? k name args with
  | some r => some (Run.ofExcept r)
  | none => calling? k name args

/-- How a function that cannot fail changes a list; it gives unit. -/
def listUpdate? (name : String) (args : List Value) : Option (Array Value → Array Value) :=
  match name, args with
  | "push", [v] => some fun items => items.push v
  | "append", [.array more] => some fun items => items ++ more
  | _, _ => none

end FormulaSheet.Script.Standard
