import FormulaSheet.Script.Access
import FormulaSheet.Script.Library.Standard

/-!
Running scripts. A function is looked for among those of the script, then those of the host, then
in the standard library. When the first argument is a plain variable, the other arguments are
evaluated before it, and a function that changes its first argument changes the variable.
-/

namespace FormulaSheet.Script

/-- What a script finds around it: functions and constants, members of values, and a say in binary
operators. -/
structure Host where
  function? : String → List Value → Option (Run Effect)
  pathFunction? : String → List Value → Option (Run Value)
  constant? : String → Option Value
  member : Members
  overload : String → Value → Value → Option Value

/-- A host with the functions of a script, of which those without names are called after a
family. -/
structure World where
  host : Host
  functions : List Function
  family : String

/-- How expressions and statements are run. -/
structure Machine where
  expr : Expr → Run Value
  statement : Statement → Run Value

namespace World

/-- The function of a name that takes so many arguments. -/
def function? (w : World) (name : String) (arity : Nat) : Option Function :=
  w.functions.find? fun f => f.name == name && f.parameters.length == arity

/-- How a missing function is named. -/
def shownName (w : World) (name : String) : String :=
  if w.family.toList.isPrefixOf name.toList then "closure" else name

/-- How many arguments a function of the script still takes. -/
def arity (w : World) : Value → Option Nat
  | .function name given =>
    (w.functions.find? fun f => f.name == name).map fun f => f.parameters.length - given.length
  | _ => none

end World

/-! ## Statements in a row, and loops -/

/-- Runs statements; the last one gives the value. -/
def Machine.body (m : Machine) : List Statement → Run Value
  | [] => return .unit
  | [s] => m.statement s
  | s :: rest => do
    let _ ← m.statement s
    m.body rest

/-- Runs statements with variables of their own. -/
def Machine.block (m : Machine) (body : List Statement) : Run Value := Run.inScope (m.body body)

/-- The values of expressions in order. -/
def Machine.values (m : Machine) : List Expr → Run (List Value)
  | [] => return []
  | e :: rest => do
    let v ← m.expr e
    return v :: (← m.values rest)

namespace Run

/-- A truth value; other values are of the wrong type. -/
def toBool : Value → Run Bool
  | .bool b => return b
  | _ => fail .wrongType

/-- A round of a loop: nothing when the loop goes on, its value when it is left. -/
def round (body : Run Value) : Run (Option Value) := fun s =>
  match body s with
  | .ok _ s => .ok none s
  | .error .next s => .ok none s
  | .error (.left v) s => .ok (some v) s
  | .error e s => .error e s

/-- Repeats rounds while a condition holds before each. -/
def loop (condition : Run Bool) (body : Run Value) : Nat → Run Value
  | 0 => fail .tooManyOperations
  | fuel + 1 => do
    tick
    if ← condition then
      match ← round body with
      | some v => return v
      | none => loop condition body fuel
    else return .unit

/-- Repeats rounds while a condition holds after each. -/
def loopAfter (condition : Run Bool) (body : Run Value) : Nat → Run Value
  | 0 => fail .tooManyOperations
  | fuel + 1 => do
    tick
    match ← round body with
    | some v => return v
    | none => if ← condition then loopAfter condition body fuel else return .unit

/-- A round for each item. -/
def loopOver (set : Nat → Value → Run Unit) (body : Run Value) : Nat → List Value → Run Value
  | _, [] => return .unit
  | i, v :: rest => do
    tick
    set i v
    match ← round body with
    | some v => return v
    | none => loopOver set body (i + 1) rest

/-- Runs `body` and, when that fails, a handler for the failure. -/
def attempt (body : Run Value) (handler : Failure → Run Value) : Run Value := fun s =>
  match body s with
  | .error (.failed f) s => if f.isCatchable then handler f s else .error (.failed f) s
  | r => r

end Run

/-- The whole numbers from `start` on, `n` of them. -/
def countFrom (start : Int) (n : Nat) : List Value :=
  (List.range n).map fun (k : Nat) => .int (start + k)

/-- The items that a loop runs over. A range counts no further than a script can. -/
def Value.items? : Value → Option (List Value)
  | .array items => some items.toList
  | .sequence list => some list
  | .range a b closed =>
    some (countFrom a (min ((if closed then b + 1 else b) - a).toNat (Limits.operations + 1)))
  | _ => none

/-! ## Calls -/

/-- Calls a function of the script. -/
def Machine.call (m : Machine) (f : Function) (this : Option Value) (args : List Value) :
    Run (Value × Option Value) := do
  Run.tick
  Run.inCall this (f.parameters.zip args).toArray (m.body f.body)

/-- The functions that are there without a script; operators are functions. -/
def World.native? (w : World) (k : Callbacks) (name : String) (args : List Value) :
    Option (Run Effect) :=
  let plain := fun (r : Except Failure Value) => Run.ofExcept (r.map fun v => (⟨v, none⟩ : Effect))
  match Operator.names.contains name, args with
  | true, [a, b] => (Operator.result? w.host.overload name a b).map plain
  | true, [a] =>
    match w.host.function? name [a] with
    | some r => some r
    | none => (Operator.unary? name a).map plain
  | true, _ => none
  | false, args =>
    match w.host.function? name args with
    | some r => some r
    | none => Standard.call? k name args

/-- Calls a function that is there without a script. -/
def World.callNative (w : World) (k : Callbacks) (name : String) (args : List Value) :
    Run Effect := do
  Run.tick
  match w.native? k name args with
  | some run =>
    let e ← run
    Run.checkSize e.value
    return e
  | none => Run.fail (.functionNotFound (w.shownName name))

/-- Calls a function that is a value. Ready functions that it calls in turn do not get to call
functions again where `k` does not let them. -/
def World.apply (w : World) (m : Machine) (k : Callbacks) (f : Value) (this : Option Value)
    (args : List Value) : Run (Value × Option Value) :=
  match f with
  | .function name given =>
    let all := given ++ args
    match w.function? name all.length with
    | some f => m.call f this all
    | none => do
      let e ← w.callNative k name all
      return (e.value, this)
  | _ => Run.fail .wrongType

/-- How ready functions call others, so many levels deep. -/
def World.callbacks (w : World) (m : Machine) : Nat → Callbacks
  | 0 =>
    { call := fun _ _ _ => Run.fail .stackOverflow
      arity := w.arity
      overload := w.host.overload }
  | n + 1 =>
    { call := fun f this args => w.apply m (w.callbacks m n) f this args
      arity := w.arity
      overload := w.host.overload }

def World.library (w : World) (m : Machine) : Callbacks := w.callbacks m Limits.calls

/-- Calls a function by its name. -/
def World.call (w : World) (m : Machine) (name : String) (args : List Value) : Run Effect :=
  match w.function? name args.length with
  | some f => do return ⟨(← m.call f none args).1, none⟩
  | none => w.callNative (w.library m) name args

/-- Calls a method of a value: a function that the value is or holds, one of the script that works
on the value as `this`, or another one with the value as its first argument. -/
def World.callMethod (w : World) (m : Machine) (name : String) (v : Value) (args : List Value) :
    Run Effect := do
  let withThis := fun (f : Value) (args : List Value) => do
    let (r, this) ← w.apply m (w.library m) f (some v) args
    return (⟨r, this⟩ : Effect)
  match name, v, args with
  | "call", .function .., args => return ⟨(← w.apply m (w.library m) v none args).1, none⟩
  | "call", _, .function f given :: args => withThis (.function f given) args
  | "call", _, _ => Run.fail .wrongType
  | "curry", .function f given, args => return ⟨.function f (given ++ args), none⟩
  | "is_shared", _, [] => return ⟨.bool false, none⟩
  | name, v, args =>
    let held := match v with
      | .map entries => Entries.get? entries name
      | _ => none
    match held, w.function? name args.length with
    | some (.function f given), _ => withThis (.function f given) args
    | _, some f =>
      let (r, this) ← m.call f (some v) args
      return ⟨r, this⟩
    | _, none => w.callNative (w.library m) name (v :: args)

/-! ## Variables, members and items -/

/-- The value of a variable, or the function of that name. -/
def World.variable (w : World) (name : String) : Run Value := do
  match ← Run.variableIndex? name with
  | some _ => Run.read name
  | none =>
    if w.functions.any fun f => f.name == name then return .function name []
    else Run.fail (.variableNotFound name)

/-- The steps of a chain with their arguments evaluated. -/
def Machine.steps (m : Machine) : List Link → Run (List Step)
  | [] => return []
  | .property optional name :: rest => do return .property optional name :: (← m.steps rest)
  | .method optional name args :: rest => do
    let args ← m.values args
    return .method optional name args :: (← m.steps rest)
  | .index optional position :: rest => do
    let position ← m.expr position
    return .index optional position :: (← m.steps rest)

/-- Goes some steps into a value; gives what is there, and the value again where a method has
changed it. -/
def World.follow (w : World) (m : Machine) : List Step → Value → Run (Value × Option Value)
  | [], v => return (v, none)
  | step :: rest, v => do
    if step.isOptional && v.isUnit then return (.unit, none)
    match step with
    | .method _ name args =>
      let e ← w.callMethod m name v args
      let (r, _) ← w.follow m rest e.value
      return (r, e.target)
    | step =>
      let inner ← Run.ofExcept (v.after w.host.member step)
      let (r, changed) ← w.follow m rest inner
      match changed with
      | none => return (r, none)
      | some inner =>
        match v.withAfter step inner with
        | .ok v => return (r, some v)
        | .error _ => return (r, none)

/-- Puts a value in the place of a variable after a change. -/
def Run.keep (i : Nat) : Option Value → Run Unit
  | some v => do
    checkOwnSize v
    store i v
  | none => pure ()

/-- Goes some steps into a variable. A list takes in a new item without being copied. -/
def World.followVariable (w : World) (m : Machine) (i : Nat) (steps : List Step) : Run Value := do
  let v ← Run.resolve ((← get).scope.getD i ("", .unit)).2
  let direct : Option (Array Value → Array Value) :=
    match v, steps with
    | .array _, [.method _ name args] =>
      if (w.function? name args.length).isSome then none else Standard.listUpdate? name args
    | _, _ => none
  match direct with
  | some change =>
    Run.tick
    match ← Run.take i with
    | .array items => Run.keep i (some (.array (change items)))
    | v => Run.store i v
    return .unit
  | none =>
    let (r, changed) ← w.follow m steps v
    Run.keep i changed
    return r

def World.chain (w : World) (m : Machine) (base : Expr) (links : List Link) : Run Value := do
  let steps ← m.steps links
  match base with
  | .variable name =>
    Run.tick
    match ← Run.variableIndex? name with
    | some i => w.followVariable m i steps
    | none => return (← w.follow m steps (← w.variable name)).1
  | .this =>
    Run.tick
    match (← get).this with
    | some v =>
      let (r, changed) ← w.follow m steps (← Run.resolve v)
      match changed with
      | some v => modify fun s => { s with this := some v }
      | none => pure ()
      return r
    | none => Run.fail (.variableNotFound "this")
  | base => return (← w.follow m steps (← m.expr base)).1

/-! ## Assignments -/

/-- What an assignment puts in the place of a value: the new value, or what an operator makes of
both. -/
def World.updated (w : World) (operator : Option String) (new old : Value) :
    Except Failure Value :=
  match operator with
  | none => .ok new
  | some op =>
    match Operator.update? op old new <|> Operator.result? w.host.overload op old new with
    | some r => r
    | none => .error (.functionNotFound op)

def World.assign (w : World) (m : Machine) (target : Expr) (operator : Option String)
    (value : Expr) : Run Unit := do
  let new ← m.expr value
  let (base, links) := match target with
    | .chain base links => (base, links)
    | e => (e, [])
  let steps ← m.steps links
  let change := Value.changedAt w.host.member (w.updated operator new) steps
  match base with
  | .variable name =>
    match ← Run.variableIndex? name with
    | some i =>
      let v ← Run.ofExcept (change (← Run.resolve ((← get).scope.getD i ("", .unit)).2))
      Run.keep i (some v)
    | none => Run.fail (.variableNotFound name)
  | .this =>
    match (← get).this with
    | some v =>
      let v ← Run.ofExcept (change v)
      Run.checkOwnSize v
      modify fun s => { s with this := some v }
    | none => Run.fail (.variableNotFound "this")
  | _ => Run.fail .unreadable

/-! ## Expressions -/

/-- Calls that the language itself gives a meaning to. -/
def World.keyword? (w : World) (m : Machine) (name : String) (args : List Expr) :
    Option (Run Value) :=
  match name, args with
  | "call", f :: args => some do
    match ← m.expr f with
    | .function g given =>
      let args ← m.values args
      return (← w.apply m (w.library m) (.function g given) none args).1
    | _ => Run.fail .wrongType
  | "curry", f :: args => some do
    match ← m.expr f with
    | .function g given => return .function g (given ++ (← m.values args))
    | _ => Run.fail .wrongType
  | "Fn", [e] => some do
    match ← m.expr e with
    | .text name => return .function name []
    | _ => Run.fail .wrongType
  | "is_shared", [.variable name] => some do
    match ← Run.variableIndex? name with
    | some i =>
      match ((← get).scope.getD i ("", .unit)).2 with
      | .shared _ => return .bool true
      | _ => return .bool false
    | none => Run.fail (.variableNotFound name)
  | "is_def_fn", [f, n] => some do
    match ← m.expr f, ← m.expr n with
    | .text name, .int n => return .bool (n ≥ 0 && (w.function? name n.toNat).isSome)
    | _, _ => Run.fail .wrongType
  | "is_def_var", [e] => some do
    match ← m.expr e with
    | .text name => return .bool (← Run.variableIndex? name).isSome
    | _ => Run.fail .wrongType
  | _, _ => none

/-- Calls a function whose first argument is a variable. -/
def World.callOnVariable (w : World) (m : Machine) (name x : String) (args : List Expr) :
    Run Value := do
  let args ← m.values args
  Run.tick
  match ← Run.variableIndex? x with
  | none => return (← w.call m name ((← w.variable x) :: args)).value
  | some i =>
    match ((← get).scope.getD i ("", .unit)).2 with
    | .shared c => return (← w.call m name ((← Run.resolve (.shared c)) :: args)).value
    | v =>
      let e ← w.call m name (v :: args)
      Run.keep i e.target
      return e.value

def World.evalCall (w : World) (m : Machine) (name : String) (args : List Expr) : Run Value :=
  match w.keyword? m name args, args with
  | some run, _ => run
  | none, .variable x :: rest => w.callOnVariable m name x rest
  | none, args => do return (← w.call m name (← m.values args)).value

/-- The values that a function takes from its surroundings, which are shared from then on. -/
def Run.shareAll : List String → Run (List Value)
  | [] => return []
  | name :: rest => do
    let v ← share name
    return v :: (← shareAll rest)

/-- The entries of a map. -/
def Machine.entries (m : Machine) :
    List (String × Expr) → Run (List (String × Value))
  | [] => return []
  | (key, e) :: rest => do
    let v ← m.expr e
    return (key, v) :: (← m.entries rest)

/-- The joined texts of values. -/
def Machine.joined (m : Machine) : List Expr → String → Run String
  | [], s => return s
  | e :: rest, s => do
    let v ← m.expr e
    let s := s ++ v.scriptText
    Run.checkSize (.text s)
    m.joined rest s

def World.evalExpr (w : World) (m : Machine) (e : Expr) : Run Value := do
  Run.tick
  match e with
  | .unit => return .unit
  | .bool b => return .bool b
  | .int n => return .int n
  | .float x => return .float x
  | .char c => return .char c
  | .text s => return .text s
  | .template parts => return .text (← m.joined parts "")
  | .array items =>
    let v := Value.array (← m.values items).toArray
    Run.checkSize v
    return v
  | .map entries =>
    let v := Value.map (Entries.ofList (← m.entries entries))
    Run.checkSize v
    return v
  | .variable name => w.variable name
  | .this =>
    match (← get).this with
    | some v => Run.resolve v
    | none => Run.fail (.variableNotFound "this")
  | .constant path =>
    match w.host.constant? path with
    | some v => return v
    | none => Run.fail (.variableNotFound path)
  | .call name args => w.evalCall m name args
  | .pathCall path args =>
    let args ← m.values args
    Run.tick
    match w.host.pathFunction? path args with
    | some run =>
      let v ← run
      Run.checkSize v
      return v
    | none => Run.fail (.functionNotFound path)
  | .both a b =>
    if ← Run.toBool (← m.expr a) then return .bool (← Run.toBool (← m.expr b))
    else return .bool false
  | .either a b =>
    if ← Run.toBool (← m.expr a) then return .bool true
    else return .bool (← Run.toBool (← m.expr b))
  | .orElse a b =>
    let v ← m.expr a
    if v.isUnit then m.expr b else return v
  | .chain base links => w.chain m base links
  | .closure name captures => return .function name (← Run.shareAll captures)
  | .statement s => m.statement s

/-! ## Statements -/

/-- Whether a value falls under a pattern of a switch. -/
def Value.fits (v : Value) (pattern : Value) : Bool :=
  match v, pattern with
  | .int n, .range a b closed => a ≤ n && (n < b || (closed && n == b))
  | v, p =>
    v.kind == p.kind &&
      match Operator.equal (fun _ _ _ => none) v p with
      | .ok b => b
      | .error _ => false

def Value.isRange : Value → Bool
  | .range .. => true
  | _ => false

/-- The case of a switch for a value: among the cases that `use` takes, the first with a pattern
and a condition that hold. -/
def Machine.case? (m : Machine) (v : Value) (use : Value → Bool) :
    List Case → Run (Option Statement)
  | [] => return none
  | .mk patterns condition body :: rest => do
    let patterns ← m.values patterns
    if patterns.any fun p => use p && v.fits p then
      match condition with
      | none => return some body
      | some c => if ← Run.toBool (← m.expr c) then return some body else m.case? v use rest
    else m.case? v use rest

/-- The case of a switch for everything else. -/
def Case.otherwise? : List Case → Option Statement
  | [] => none
  | .mk [] _ body :: _ => some body
  | _ :: rest => otherwise? rest

def Machine.switch (m : Machine) (v : Value) (cases : List Case) : Run Value := do
  match ← m.case? v (fun p => !p.isRange) cases with
  | some s => m.statement s
  | none =>
    match ← m.case? v Value.isRange cases with
    | some s => m.statement s
    | none =>
      match Case.otherwise? cases with
      | some s => m.statement s
      | none => return .unit

/-- What the handler of a failure is given: the value that was thrown, or a description. -/
def Failure.description : Failure → Value
  | .raised v => v
  | f => .map [("message", .text f.message)]

/-- Runs the handler of a failure; where it throws unit, the failure goes on. -/
def Machine.handle (m : Machine) (name : Option String) (handler : List Statement)
    (f : Failure) : Run Value := fun s =>
  let run := Run.inScope do
    name.forM fun n => Run.declare n f.description
    m.block handler
  match run s with
  | .error (.failed (.raised .unit)) s => .error (.failed f) s
  | r => r

def Machine.each (m : Machine) (name : String) (counter : Option String) (items : List Value)
    (body : List Statement) : Run Value :=
  Run.inScope do
    let base := (← get).scope.size
    counter.forM fun n => Run.declare n (.int 0)
    Run.declare name .unit
    let place := if counter.isSome then base + 1 else base
    let set := fun (i : Nat) (v : Value) => do
      if counter.isSome then Run.store base (.int i)
      Run.store place v
    Run.loopOver set (m.block body) 0 items

def World.runStatement (w : World) (m : Machine) (s : Statement) : Run Value := do
  Run.tick
  match s with
  | .expr e => m.expr e
  | .declare name value =>
    let v ← m.expr value
    Run.declare name v
    return .unit
  | .assign target operator value =>
    w.assign m target operator value
    return .unit
  | .block body => m.block body
  | .branch condition onTrue onFalse =>
    if ← Run.toBool (← m.expr condition) then m.block onTrue else m.block onFalse
  | .switch value cases => m.switch (← m.expr value) cases
  | .repeat condition body =>
    let test : Run Bool := match condition with
      | some c => do Run.toBool (← m.expr c)
      | none => pure true
    Run.loop test (m.block body) (Limits.operations + 1)
  | .repeatAfter body condition wanted =>
    let test : Run Bool := do return (← Run.toBool (← m.expr condition)) == wanted
    Run.loopAfter test (m.block body) (Limits.operations + 1)
  | .each name counter items body =>
    match (← m.expr items).items? with
    | some items => m.each name counter items body
    | none => Run.fail .wrongType
  | .leave value =>
    let v ← value.elim (pure .unit) m.expr
    throw (.left v)
  | .next => throw .next
  | .give value =>
    let v ← value.elim (pure .unit) m.expr
    throw (.gave v)
  | .raise value =>
    let v ← value.elim (pure .unit) m.expr
    Run.fail (.raised v)
  | .attempt body name handler =>
    let _ ← Run.attempt (m.block body) (m.handle name handler)
    return .unit

/-! ## Whole scripts -/

/-- The machine that nests so deep. -/
def World.machine (w : World) : Nat → Machine
  | 0 =>
    { expr := fun _ => Run.fail .stackOverflow
      statement := fun _ => Run.fail .stackOverflow }
  | n + 1 =>
    { expr := fun e s => w.evalExpr (w.machine n) e s
      statement := fun t s => w.runStatement (w.machine n) t s }

/-- More than any script can nest, because the parser bounds the depth of terms and calls are
bounded too. -/
def Limits.nesting : Nat := 100000

/-- The value that a script gives. -/
def World.value (w : World) (body : List Statement) : Run Value := fun s =>
  match (w.machine Limits.nesting).body body s with
  | .error (.gave v) s | .error (.ended v) s => .ok v s
  | r => r

end FormulaSheet.Script
