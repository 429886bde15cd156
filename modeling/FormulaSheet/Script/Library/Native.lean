import FormulaSheet.Script.Operator

/-!
Functions that scripts find ready. One that changes its first argument in place also says what
becomes of it.
-/

namespace FormulaSheet.Script

/-- What a ready function gives, and what becomes of its first argument when it changes that. -/
structure Effect where
  value : Value
  target : Option Value := none

/-- The result of a ready function; none where no function of that name takes such arguments. -/
abbrev Answer := Option (Except Failure Effect)

namespace Answer

def gives (v : Value) : Answer := some (.ok ⟨v, none⟩)

/-- Changes the first argument and gives a value. -/
def changes (target v : Value) : Answer := some (.ok ⟨v, some target⟩)

def fails (f : Failure) : Answer := some (.error f)

def ofBool (b : Bool) : Answer := gives (.bool b)

def ofNat (n : Nat) : Answer := gives (.int n)

def ofText (cs : List Char) : Answer := gives (.text (String.ofList cs))

end Answer

/-- The place that an index means in something of a size; negative ones count from the end, and
places outside are moved to the nearest end. -/
def clampIndex (size : Nat) (i : Int) : Nat :=
  if i < 0 then size - i.natAbs else min i.toNat size

/-- The place that an index means, if there is something. -/
def index? (size : Nat) (i : Int) : Option Nat :=
  if i < 0 then (if i.natAbs ≤ size then some (size - i.natAbs) else none)
  else if i.toNat < size then some i.toNat
  else none

/-- The start and length of a range in something of a size. -/
def clampRange (size : Nat) (start stop : Int) (closed : Bool) : Nat × Nat :=
  let a := clampIndex size (max start 0)
  let b := clampIndex size (max (if closed then stop + 1 else stop) 0)
  (a, b - a)

namespace Operator

mutual

/-- Equality of values, where `overload` decides before the language does. Lists and maps are
equal item by item. -/
def equal (overload : String → Value → Value → Option Value) :
    Value → Value → Except Failure Bool
  | .array ⟨xs⟩, .array ⟨ys⟩ => equalAll overload xs ys
  | .map es, .map fs => equalEntries overload es fs
  | a, b =>
    match overload "==" a b with
    | some (.bool r) => .ok r
    | _ =>
      match binary? "==" a b with
      | some (.ok (.bool r)) => .ok r
      | _ => .error (.functionNotFound "==")

def equalAll (overload : String → Value → Value → Option Value) :
    List Value → List Value → Except Failure Bool
  | [], [] => .ok true
  | x :: xs, y :: ys =>
    match equal overload x y with
    | .ok true => equalAll overload xs ys
    | r => r
  | _, _ => .ok false

def equalEntries (overload : String → Value → Value → Option Value) :
    List (String × Value) → List (String × Value) → Except Failure Bool
  | [], [] => .ok true
  | (k, x) :: es, (l, y) :: fs =>
    if k = l then
      match equal overload x y with
      | .ok true => equalEntries overload es fs
      | r => r
    else .ok false
  | _, _ => .ok false

end

/-- A binary operator on any two values. -/
def result? (overload : String → Value → Value → Option Value) (op : String) (a b : Value) :
    Option (Except Failure Value) :=
  match overload op a b with
  | some v => some (.ok v)
  | none =>
    let equality := fun (wanted : Bool) =>
      some ((equal overload a b).map fun r => Value.bool (r == wanted))
    match op, a, b with
    | "==", .array _, .array _ | "==", .map _, .map _ => equality true
    | "!=", .array _, .array _ | "!=", .map _, .map _ => equality false
    | _, _, _ => binary? op a b

end Operator

end FormulaSheet.Script
