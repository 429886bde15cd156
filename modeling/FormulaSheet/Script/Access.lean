import FormulaSheet.Script.Library.Lists
import FormulaSheet.Script.Library.Numbers
import FormulaSheet.Script.Library.Texts

/-!
Members and items of values: reading them, and putting others in their places.
-/

namespace FormulaSheet.Script

/-- A step into a value whose arguments are known; an optional step gives unit where there is
nothing to step into. -/
inductive Step where
  | property (optional : Bool) (name : String)
  | method (optional : Bool) (name : String) (args : List Value)
  | index (optional : Bool) (position : Value)

namespace Step

def isOptional : Step → Bool
  | .property o _ | .method o .. | .index o _ => o

end Step

/-- Members that a host gives to values of its own and to others. -/
abbrev Members := Value → String → Option Value

namespace Value

def isUnit : Value → Bool
  | .unit => true
  | _ => false

/-- Members that every host has. -/
def ownMember? : Members
  | _, "tag" => some (.int 0)
  | .function name _, "name" => some (.text name)
  | .text s, name => Texts.property? s name
  | .array items, "len" => some (.int items.size)
  | .array items, "is_empty" => some (.bool items.isEmpty)
  | v, name => Numbers.property? v name

/-- A member; an entry that a map does not have is unit. -/
def member (host : Members) (v : Value) (name : String) : Except Failure Value :=
  match v with
  | .map entries => .ok ((Entries.get? entries name).getD .unit)
  | v =>
    match host v name <|> ownMember? v name with
    | some w => .ok w
    | none => .error .noProperty

/-- Something at a place in something of a size. -/
def atPlace (size : Nat) (i : Int) (f : Nat → α) : Except Failure α :=
  match index? size i with
  | some k => .ok (f k)
  | none => .error .outOfBounds

/-- An item: of a list, a map, the characters of a text or the bits of a whole number. -/
def item (v position : Value) : Except Failure Value :=
  match v, position with
  | .array items, .int i => atPlace items.size i fun k => items.getD k .unit
  | .map entries, .text key => .ok ((Entries.get? entries key).getD .unit)
  | .text s, .int i => atPlace s.length i fun k => (s.toList[k]?).elim .unit .char
  | .int n, .int i => atPlace 64 i fun k => .bool ((Operator.bits n).testBit k)
  | .array _, _ | .map _, _ | .text _, _ | .int _, _ => .error .wrongType
  | _, _ => .error .noProperty

/-- The bits of a whole number with one of them set or cleared. -/
def withBit (n : Int) (k : Nat) (b : Bool) : Int :=
  let bits := Operator.bits n
  if bits.testBit k = b then n else Operator.ofBits (bits ^^^ Nat.pow 2 k)

/-- A value with one of its items replaced. -/
def withItem (v position new : Value) : Except Failure Value :=
  match v, position, new with
  | .array items, .int i, new => atPlace items.size i fun k => .array (items.setIfInBounds k new)
  | .map entries, .text key, new => .ok (.map (Entries.insert key new entries))
  | .text s, .int i, .char c =>
    atPlace s.length i fun k => .text (String.ofList (s.toList.set k c))
  | .int n, .int i, .bool b => atPlace 64 i fun k => .int (withBit n k b)
  | .array _, _, _ | .map _, _, _ | .text _, _, _ | .int _, _, _ => .error .wrongType
  | _, _, _ => .error .noProperty

/-- What a step leads to. -/
def after (host : Members) (v : Value) : Step → Except Failure Value
  | .property _ name => v.member host name
  | .index _ position => v.item position
  | .method .. => .error .noProperty

/-- A value with another one where a step leads. -/
def withAfter (v : Value) (step : Step) (new : Value) : Except Failure Value :=
  match step, v with
  | .property _ name, .map entries => .ok (.map (Entries.insert name new entries))
  | .property .., _ => .error .noProperty
  | .index _ position, v => v.withItem position new
  | .method .., _ => .error .noProperty

/-- A value with the one changed that some steps lead to. -/
def changedAt (host : Members) (change : Value → Except Failure Value) :
    List Step → Value → Except Failure Value
  | [], v => change v
  | step :: steps, v =>
    if step.isOptional && v.isUnit then .ok v
    else do
      let inner ← v.after host step
      let inner ← changedAt host change steps inner
      v.withAfter step inner

end Value

end FormulaSheet.Script
