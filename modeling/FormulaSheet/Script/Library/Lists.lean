import FormulaSheet.Script.Library.Native

/-!
Ready functions on lists. Those that take a function call it for each item: a function without
parameters works on the item as `this`, one with a parameter is given the item, and one with two
also its place.
-/

namespace FormulaSheet.Script

/-- How ready functions call functions of the script: with a value for `this` and arguments, giving
the result and what became of `this`; and how many arguments a function still takes. -/
structure Callbacks where
  call : Value → Option Value → List Value → Run (Value × Option Value)
  arity : Value → Option Nat
  overload : String → Value → Value → Option Value

namespace Callbacks

/-- Calls a function for an item; gives the result and what became of the item. -/
def onItem (k : Callbacks) (f item : Value) (i : Nat) : Run (Value × Value) := do
  match k.arity f with
  | some 0 =>
    let (v, this) ← k.call f (some item) []
    return (v, this.getD item)
  | some 2 => return ((← k.call f none [item, .int i]).1, item)
  | _ => return ((← k.call f none [item]).1, item)

/-- Whether a function holds for an item; anything but a truth value counts as false. -/
def holds (k : Callbacks) (f item : Value) (i : Nat) : Run Bool := do
  match (← k.onItem f item i).1 with
  | .bool b => return b
  | _ => return false

def equal (k : Callbacks) (a b : Value) : Except Failure Bool := Operator.equal k.overload a b

end Callbacks

namespace Lists

open Answer

/-- The items from a place on, at most `n`. -/
def part (items : Array Value) (start n : Nat) : Array Value := items.extract start (start + n)

def set (items : Array Value) : Value := .array items

/-- Replaces some items by others. -/
def splice (items : Array Value) (start n : Nat) (new : Array Value) : Array Value :=
  items.extract 0 start ++ new ++ items.extract (start + n) items.size

/-- The order of two values of one simple kind. -/
def simpleOrder : Value → Value → Ordering
  | .int a, .int b => compare a b
  | .char a, .char b => compare a.toNat b.toNat
  | .text a, .text b => compare a b
  | .bool a, .bool b => compare a b
  | .float a, .float b => if a < b then .lt else if b < a then .gt else .eq
  | _, _ => .eq

/-- The items in order, when they are all of one kind that has an order. -/
def sorted (items : Array Value) : Except Failure (Array Value) :=
  match items.toList with
  | [] | [_] => .ok items
  | v :: vs =>
    if vs.any fun w => w.kind ≠ v.kind then
      .error (.functionNotFound "sort() cannot be called with elements of different types")
    else
      match v.kind with
      | .int | .char | .text | .bool | .float =>
        .ok (((v :: vs).mergeSort fun a b => simpleOrder b a != .lt).toArray)
      | k => .error (.functionNotFound s!"sort() cannot be called with elements of {k.name}")

/-- Functions of a list that call no other functions. -/
def call? (name : String) (items : Array Value) (args : List Value) : Answer :=
  match name, args with
  | "len", [] => ofNat items.size
  | "is_empty", [] => ofBool items.isEmpty
  | "push", [v] => changes (set (items.push v)) .unit
  | "append", [.array more] => changes (set (items ++ more)) .unit
  | "insert", [.int i, v] =>
    let k := clampIndex items.size i
    changes (set (splice items k 0 #[v])) .unit
  | "pad", [.int n, v] =>
    if n > Limits.arrayItems then fails .tooLarge
    else changes (set (items ++ Array.replicate (n.toNat - items.size) v)) .unit
  | "pop", [] => changes (set items.pop) (items.back?.getD .unit)
  | "shift", [] => changes (set (items.extract 1 items.size)) (items[0]?.getD .unit)
  | "remove", [.int i] =>
    match index? items.size i with
    | some k => changes (set (splice items k 1 #[])) (items.getD k .unit)
    | none => gives .unit
  | "reverse", [] => changes (set items.reverse) .unit
  | "clear", [] => changes (set #[]) .unit
  | "truncate", [.int n] => changes (set (items.extract 0 n.toNat)) .unit
  | "chop", [.int n] =>
    changes (set (items.extract (items.size - n.toNat) items.size)) .unit
  | "get", [.int i] =>
    gives (((index? items.size i).bind (items[·]?)).getD .unit)
  | "set", [.int i, v] =>
    match index? items.size i with
    | some k => changes (set (items.setIfInBounds k v)) .unit
    | none => gives .unit
  | "extract", [.int i] => gives (set (items.extract (clampIndex items.size i) items.size))
  | "extract", [.int i, .int n] => gives (set (part items (clampIndex items.size i) n.toNat))
  | "extract", [.range a b closed] =>
    let (i, n) := clampRange items.size a b closed
    gives (set (part items i n))
  | "splice", [.int i, .int n, .array new] =>
    changes (set (splice items (clampIndex items.size i) n.toNat new)) .unit
  | "splice", [.range a b closed, .array new] =>
    let (i, n) := clampRange items.size a b closed
    changes (set (splice items i n new)) .unit
  | "split", [.int i] =>
    let k := clampIndex items.size i
    changes (set (items.extract 0 k)) (set (items.extract k items.size))
  | "drain", [.range a b closed] =>
    let (i, n) := clampRange items.size a b closed
    changes (set (splice items i n #[])) (set (part items i n))
  | "drain", [.int i, .int n] =>
    let k := clampIndex items.size i
    changes (set (splice items k n.toNat #[])) (set (part items k n.toNat))
  | "retain", [.range a b closed] =>
    let (i, n) := clampRange items.size a b closed
    changes (set (part items i n)) (set (splice items i n #[]))
  | "sort", [] =>
    some ((sorted items).map fun r => ⟨.unit, some (set r)⟩)
  | _, _ => none

/-- The first item that equals a value, from a place on. -/
def findEqual (k : Callbacks) (v : Value) : Nat → List Value → Except Failure (Option Nat)
  | _, [] => .ok none
  | i, x :: xs =>
    match k.equal x v with
    | .ok true => .ok (some i)
    | .ok false => findEqual k v (i + 1) xs
    | .error e => .error e

/-- The items without those that equal the one before them. -/
def withoutRepeats (k : Callbacks) : List Value → Except Failure (List Value)
  | [] => .ok []
  | [x] => .ok [x]
  | x :: y :: rest => do
    let more ← withoutRepeats k (y :: rest)
    match k.equal x y with
    | .ok true => return x :: more.drop 1
    | _ => return x :: more

/-- Functions of a list that compare its items. -/
def compare? (k : Callbacks) (name : String) (items : Array Value) (args : List Value) : Answer :=
  match name, args with
  | "contains", [v] =>
    some ((findEqual k v 0 items.toList).map fun i => ⟨.bool i.isSome, none⟩)
  | "index_of", [.function ..] => none
  | "index_of", [v] =>
    some ((findEqual k v 0 items.toList).map fun i => ⟨.int (i.elim (-1) Int.ofNat), none⟩)
  | "dedup", [] =>
    some ((withoutRepeats k items.toList).map fun r => ⟨.unit, some (set r.toArray)⟩)
  | _, _ => none

/-- Calls a function for every item; gives the results and what became of the items. -/
def mapItems (k : Callbacks) (f : Value) :
    Nat → List Value → Array Value → Array Value → Run (Array Value × Array Value)
  | _, [], results, items => return (results, items)
  | i, x :: xs, results, items => do
    let (v, x) ← k.onItem f x i
    mapItems k f (i + 1) xs (results.push v) (items.push x)

/-- The items for which a function holds, and the others. -/
def partition (k : Callbacks) (f : Value) :
    Nat → List Value → Array Value → Array Value → Run (Array Value × Array Value)
  | _, [], yes, no => return (yes, no)
  | i, x :: xs, yes, no => do
    if ← k.holds f x i then partition k f (i + 1) xs (yes.push x) no
    else partition k f (i + 1) xs yes (no.push x)

/-- The first item for which a function gives `wanted`. -/
def findItem (k : Callbacks) (f : Value) (wanted : Bool) :
    Nat → List Value → Run (Option (Nat × Value))
  | _, [] => return none
  | i, x :: xs => do
    if (← k.holds f x i) = wanted then return some (i, x)
    else findItem k f wanted (i + 1) xs

/-- The first result of a function that is not unit. -/
def findResult (k : Callbacks) (f : Value) : Nat → List Value → Run Value
  | _, [] => return .unit
  | i, x :: xs => do
    match (← k.onItem f x i).1 with
    | .unit => findResult k f (i + 1) xs
    | v => return v

/-- Combines the items from the first to the last with the result so far. -/
def reduceItems (k : Callbacks) (f : Value) : Value → List (Value × Nat) → Run Value
  | acc, [] => return acc
  | acc, (x, i) :: xs => do
    let v ← match k.arity f with
      | some 1 => pure (← k.call f (some x) [acc]).1
      | some 3 => pure (← k.call f none [acc, x, .int i]).1
      | _ => pure (← k.call f none [acc, x]).1
    reduceItems k f v xs

/-- Whether a function puts `a` before `b`: it gives a negative number or true. A failure and any
other value mean no order. -/
def putsBefore (k : Callbacks) (f a b : Value) : Run Bool := fun s =>
  match k.call f none [a, b] s with
  | .ok (.int n, _) s => .ok (decide (n < 0)) s
  | .ok (.bool r, _) s => .ok r s
  | .ok _ s => .ok false s
  | .error (.failed e) s => if e.isCatchable then .ok false s else .error (.failed e) s
  | .error e s => .error e s

/-- Merges two sorted lists; of items without order those of the first list come first. -/
def merge (before : Value → Value → Run Bool) : Nat → List Value → List Value → Run (List Value)
  | 0, xs, ys => return xs ++ ys
  | _, [], ys => return ys
  | _, xs, [] => return xs
  | fuel + 1, x :: xs, y :: ys => do
    if ← before y x then return y :: (← merge before fuel (x :: xs) ys)
    else return x :: (← merge before fuel xs (y :: ys))

/-- Sorts by halves. -/
def sortWith (before : Value → Value → Run Bool) : Nat → List Value → Run (List Value)
  | 0, xs => return xs
  | fuel + 1, xs => do
    if xs.length ≤ 1 then return xs
    let half := xs.length / 2
    let front ← sortWith before fuel (xs.take half)
    let back ← sortWith before fuel (xs.drop half)
    merge before xs.length front back

/-- Functions of a list and a function. -/
def run? (k : Callbacks) (name : String) (items : Array Value) (args : List Value) :
    Option (Run Effect) :=
  let xs := items.toList
  let give := fun (r : Run Value) => some (do return (⟨← r, none⟩ : Effect))
  match name, args with
  | "map", [.function f g] =>
    some do
      let (results, items') ← mapItems k (.function f g) 0 xs #[] #[]
      return ⟨set results, some (set items')⟩
  | "for_each", [.function f g] =>
    let h := Value.function f g
    some do
      let k' := if k.arity h = some 1 then
          { k with
            call := fun v _ vs => k.call v (vs.head?) (vs.drop 1)
            arity := fun _ => some 2 }
        else k
      let (_, items') ← mapItems k' h 0 xs #[] #[]
      return ⟨.unit, some (set items')⟩
  | "filter", [.function f g] =>
    give do return set (← partition k (.function f g) 0 xs #[] #[]).1
  | "retain", [.function f g] =>
    some do
      let (yes, no) ← partition k (.function f g) 0 xs #[] #[]
      return ⟨set no, some (set yes)⟩
  | "drain", [.function f g] =>
    some do
      let (yes, no) ← partition k (.function f g) 0 xs #[] #[]
      return ⟨set yes, some (set no)⟩
  | "some", [.function f g] =>
    give do return .bool (← findItem k (.function f g) true 0 xs).isSome
  | "all", [.function f g] =>
    give do return .bool (← findItem k (.function f g) false 0 xs).isNone
  | "find", [.function f g] =>
    give do return ((← findItem k (.function f g) true 0 xs).map Prod.snd).getD .unit
  | "find", [.function f g, .int i] =>
    let start := clampIndex items.size i
    give do
      let found ← findItem k (.function f g) true start (xs.drop start)
      return (found.map Prod.snd).getD .unit
  | "find_map", [.function f g] => give (findResult k (.function f g) 0 xs)
  | "index_of", [.function f g] =>
    give do return .int ((← findItem k (.function f g) true 0 xs).elim (-1) fun r => Int.ofNat r.1)
  | "reduce", [.function f g] => give (reduceItems k (.function f g) .unit xs.zipIdx)
  | "reduce", [.function f g, v] => give (reduceItems k (.function f g) v xs.zipIdx)
  | "reduce_rev", [.function f g] =>
    give (reduceItems k (.function f g) .unit xs.zipIdx.reverse)
  | "reduce_rev", [.function f g, v] =>
    give (reduceItems k (.function f g) v xs.zipIdx.reverse)
  | "sort", [.function f g] =>
    some do
      let r ← sortWith (putsBefore k (.function f g)) xs.length xs
      return ⟨.unit, some (set r.toArray)⟩
  | _, _ => none

end Lists

namespace Maps

open Answer

/-- Functions of a map. -/
def call? (name : String) (entries : List (String × Value)) (args : List Value) : Answer :=
  match name, args with
  | "len", [] => ofNat entries.length
  | "is_empty", [] => ofBool entries.isEmpty
  | "clear", [] => changes (.map []) .unit
  | "contains", [.text key] => ofBool (Entries.get? entries key).isSome
  | "get", [.text key] => gives ((Entries.get? entries key).getD .unit)
  | "set", [.text key, v] => changes (.map (Entries.insert key v entries)) .unit
  | "remove", [.text key] =>
    changes (.map (Entries.erase key entries)) ((Entries.get? entries key).getD .unit)
  | "keys", [] => gives (.array (entries.map fun e => Value.text e.1).toArray)
  | "values", [] => gives (.array (entries.map Prod.snd).toArray)
  | "mixin", [.map more] => changes (.map (Operator.union entries more)) .unit
  | "fill_with", [.map more] => changes (.map (Operator.union more entries)) .unit
  | _, _ => none

/-- The entries for which a function of key and value holds. -/
def filter (k : Callbacks) (f : Value) : List (String × Value) → Run (List (String × Value))
  | [] => return []
  | (key, v) :: rest => do
    let (r, _) ← match k.arity f with
      | some 1 => k.call f (some v) [.text key]
      | _ => k.call f none [.text key, v]
    let more ← filter k f rest
    match r with
    | .bool true => return (key, v) :: more
    | _ => return more

def run? (k : Callbacks) (name : String) (entries : List (String × Value)) (args : List Value) :
    Option (Run Effect) :=
  match name, args with
  | "filter", [.function f g] =>
    some do return ⟨.map (← filter k (.function f g) entries), none⟩
  | _, _ => none

end Maps

end FormulaSheet.Script
