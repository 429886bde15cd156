import FormulaSheet.Script.Value

/-!
Runs of scripts. A run carries the variables of the function that is being run, the cells that
functions share, and a count of operations; it gives a value, or stops early with a failure or by
leaving a loop or a function. Limits keep every run short and small.
-/

namespace FormulaSheet.Script

/-- Why a script fails. -/
inductive Failure where
  /-- A value that was thrown. -/
  | raised (v : Value)
  | unreadable
  | variableNotFound (name : String)
  | functionNotFound (name : String)
  | noProperty
  | outOfBounds
  | wrongType
  | arithmetic
  | tooManyOperations
  | stackOverflow
  | tooLarge

namespace Failure

def message : Failure → String
  | .raised v => v.print .result
  | .unreadable => "script: syntax"
  | .variableNotFound name => "script: variable not found: " ++ name
  | .functionNotFound name => "script: function not found: " ++ name
  | .noProperty => "script: property"
  | .outOfBounds => "script: index out of bounds"
  | .wrongType => "script: wrong type"
  | .arithmetic => "script: arithmetic"
  | .tooManyOperations => "script: too many operations"
  | .stackOverflow => "script: stack overflow"
  | .tooLarge => "script: data too large"

/-- Whether a script can go on after a failure. Limits are final. -/
def isCatchable : Failure → Bool
  | .tooManyOperations | .stackOverflow | .tooLarge => false
  | _ => true

end Failure

/-- Why a run stops before its end. -/
inductive Stop where
  | failed (f : Failure)
  /-- A loop is left with a value. -/
  | left (v : Value)
  /-- A loop goes on with its next round. -/
  | next
  /-- A function gives a value. -/
  | gave (v : Value)
  /-- The whole script gives a value. -/
  | ended (v : Value)

/-- The state of a run: shared cells, operations so far, the variables in scope with the newest
last, the value that a method works on, the depth of calls, and the tables asked for so far with
the latest first. -/
structure State where
  cells : Array Value := #[]
  operations : Nat := 0
  scope : Array (String × Value) := #[]
  this : Option Value := none
  level : Nat := 0
  asked : List String := []

abbrev Run := EStateM Stop State

namespace Limits

def operations : Nat := 250000

/-- How deep calls may be nested. -/
def calls : Nat := 48

def textBytes : Nat := 256 * 1024

def arrayItems : Nat := 100000

def mapEntries : Nat := 10000

end Limits

namespace Run

def fail (f : Failure) : Run α := throw (.failed f)

/-- A result of a pure function, or its failure. -/
def ofExcept : Except Failure α → Run α
  | .ok a => pure a
  | .error f => fail f

/-- Counts an operation. -/
def tick : Run Unit := do
  let n := (← get).operations + 1
  modify fun s => { s with operations := n }
  if n > Limits.operations then fail .tooManyOperations

/-- Refuses values that are too large altogether. -/
def checkSize (v : Value) : Run Unit :=
  match v with
  | .text s => if s.utf8ByteSize > Limits.textBytes then fail .tooLarge else pure ()
  | .array _ | .map _ =>
    let (a, b, c) := v.sizes
    if a > Limits.textBytes ∨ b > Limits.arrayItems ∨ c > Limits.mapEntries then fail .tooLarge
    else pure ()
  | _ => pure ()

/-- Refuses a list or map with too many items of its own. -/
def checkOwnSize (v : Value) : Run Unit :=
  match v with
  | .text s => if s.utf8ByteSize > Limits.textBytes then fail .tooLarge else pure ()
  | .array items => if items.size > Limits.arrayItems then fail .tooLarge else pure ()
  | .map entries => if entries.length > Limits.mapEntries then fail .tooLarge else pure ()
  | _ => pure ()

/-- The place of the newest variable of a name among the first `n`. -/
def findVariable? (scope : Array (String × Value)) (name : String) : Nat → Option Nat
  | 0 => none
  | n + 1 =>
    match scope[n]? with
    | some (k, _) => if k = name then some n else findVariable? scope name n
    | none => findVariable? scope name n

def variableIndex? (name : String) : Run (Option Nat) := do
  let scope := (← get).scope
  return findVariable? scope name scope.size

/-- The value of a cell that is shared, and any other value itself. -/
def resolve (v : Value) : Run Value := do
  match v with
  | .shared c => return (← get).cells.getD c .unit
  | v => return v

/-- The value of a variable. -/
def read (name : String) : Run Value := do
  match ← variableIndex? name with
  | some i =>
    match (← get).scope[i]? with
    | some (_, v) => resolve v
    | none => fail (.variableNotFound name)
  | none => fail (.variableNotFound name)

/-- Stores a value in a place of the scope, or in the cell that it shares. -/
def store (i : Nat) (v : Value) : Run Unit := modify fun s =>
  match s.scope[i]? with
  | some (_, .shared c) => { s with cells := s.cells.setIfInBounds c v }
  | some (name, _) => { s with scope := s.scope.setIfInBounds i (name, v) }
  | none => s

/-- Takes the value out of a place of the scope, to be stored there again. -/
def take (i : Nat) : Run Value := do
  let v ← match (← get).scope[i]? with
    | some (_, .shared c) => pure ((← get).cells.getD c .unit)
    | some (_, v) => pure v
    | none => pure .unit
  store i .unit
  return v

def declare (name : String) (v : Value) : Run Unit :=
  modify fun s => { s with scope := s.scope.push (name, v) }

/-- Runs a part of a script and forgets the variables that it declares, also when it stops. -/
def inScope (body : Run α) : Run α := fun s =>
  let size := s.scope.size
  let restore := fun (s : State) => { s with scope := s.scope.shrink size }
  match body s with
  | .ok a s => .ok a (restore s)
  | .error e s => .error e (restore s)

/-- Makes a variable one that functions share and gives its cell. -/
def share (name : String) : Run Value := do
  match ← variableIndex? name with
  | none => fail (.variableNotFound name)
  | some i =>
    match (← get).scope[i]? with
    | some (_, .shared c) => return .shared c
    | some (k, v) =>
      let c := (← get).cells.size
      modify fun s =>
        { s with cells := s.cells.push v, scope := s.scope.setIfInBounds i (k, .shared c) }
      return .shared c
    | none => fail (.variableNotFound name)

/-- Runs the body of a function with variables and a `this` of its own; gives its value and what
became of `this`. -/
def inCall (this : Option Value) (scope : Array (String × Value)) (body : Run Value) :
    Run (Value × Option Value) := fun s =>
  if s.level ≥ Limits.calls then .error (.failed .stackOverflow) s
  else
    let back := fun (inner : State) =>
      { inner with scope := s.scope, this := s.this, level := s.level }
    match body { s with scope := scope, this := this, level := s.level + 1 } with
    | .ok v inner => .ok (v, inner.this) (back inner)
    | .error (.gave v) inner => .ok (v, inner.this) (back inner)
    | .error (.failed f) inner => .error (.failed f) (back inner)
    | .error (.ended v) inner => .error (.ended v) (back inner)
    | .error (.left _) inner => .ok (.unit, inner.this) (back inner)
    | .error .next inner => .ok (.unit, inner.this) (back inner)

end Run

end FormulaSheet.Script
