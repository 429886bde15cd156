/-!
Terms of the script language: expressions and statements, as the parser gives them and the
evaluator runs them. Operators are calls of functions that have the operator's name.
-/

namespace FormulaSheet.Script

mutual

inductive Expr where
  | unit
  | bool (b : Bool)
  | int (n : Int)
  | float (x : Float)
  | char (c : Char)
  | text (s : String)
  /-- Text with embedded values. -/
  | template (parts : List Expr)
  | array (items : List Expr)
  | map (entries : List (String × Expr))
  | variable (name : String)
  | this
  /-- A constant of a namespace. -/
  | constant (path : String)
  /-- A call of a function or an operator. -/
  | call (name : String) (args : List Expr)
  /-- A call of a function of a namespace. -/
  | pathCall (path : String) (args : List Expr)
  | both (a b : Expr)
  | either (a b : Expr)
  /-- The first value unless it is unit. -/
  | orElse (a b : Expr)
  /-- Members and indices of a value, one after the other. -/
  | chain (base : Expr) (links : List Link)
  /-- A function without a name of its own and the variables it shares with its surroundings. -/
  | closure (name : String) (captures : List String)
  | statement (s : Statement)

/-- One step into a value; an optional step gives unit where there is nothing to step into. -/
inductive Link where
  | property (optional : Bool) (name : String)
  | method (optional : Bool) (name : String) (args : List Expr)
  | index (optional : Bool) (position : Expr)

inductive Statement where
  | expr (e : Expr)
  | declare (name : String) (value : Expr)
  /-- An assignment, perhaps through an operator. -/
  | assign (target : Expr) (operator : Option String) (value : Expr)
  | block (body : List Statement)
  | branch (condition : Expr) (onTrue onFalse : List Statement)
  | switch (value : Expr) (cases : List Case)
  | repeat (condition : Option Expr) (body : List Statement)
  /-- A loop that tests after each round whether it goes on, which it does on `wanted`. -/
  | repeatAfter (body : List Statement) (condition : Expr) (wanted : Bool)
  | each (name : String) (counter : Option String) (items : Expr) (body : List Statement)
  | leave (value : Option Expr)
  | next
  | give (value : Option Expr)
  | raise (value : Option Expr)
  | attempt (body : List Statement) (name : Option String) (handler : List Statement)

/-- A case of a switch: the constants or ranges it is for, a further condition, and its body. No
constants at all make it the case for everything else. -/
inductive Case where
  | mk (patterns : List Expr) (condition : Option Expr) (body : Statement)

end

/-- A function that a script defines. -/
structure Function where
  name : String
  parameters : List String
  body : List Statement

/-- A parsed script. -/
structure Program where
  functions : List Function
  body : List Statement

namespace Expr

mutual

/-- Whether an expression is a constant. -/
def isConstant : Expr → Bool
  | .unit | .bool _ | .int _ | .float _ | .char _ | .text _ => true
  | .array items => allConstant items
  | .map entries => allEntriesConstant entries
  | _ => false

def allConstant : List Expr → Bool
  | [] => true
  | e :: es => e.isConstant && allConstant es

def allEntriesConstant : List (String × Expr) → Bool
  | [] => true
  | (_, e) :: es => e.isConstant && allEntriesConstant es

end

mutual

/-- Whether evaluating an expression cannot be noticed, so that it is left out where its value is
not used. -/
def isPure : Expr → Bool
  | .variable _ => true
  | .template parts => allPure parts
  | .array items => allPure items
  | .map entries => allEntriesPure entries
  | .both a b | .either a b | .orElse a b => a.isPure && b.isPure
  | .unit | .bool _ | .int _ | .float _ | .char _ | .text _ => true
  | _ => false

def allPure : List Expr → Bool
  | [] => true
  | e :: es => e.isPure && allPure es

def allEntriesPure : List (String × Expr) → Bool
  | [] => true
  | (_, e) :: es => e.isPure && allEntriesPure es

end

end Expr

namespace Statement

mutual

def isPure : Statement → Bool
  | .expr e => e.isPure
  | .block body => allPure body
  | .branch c a b => c.isPure && allPure a && allPure b
  | _ => false

def allPure : List Statement → Bool
  | [] => true
  | s :: ss => s.isPure && allPure ss

end

/-- Leaves out statements whose value is not used and that cannot be noticed. -/
def withoutIdle : List Statement → List Statement
  | [] => []
  | [s] => [s]
  | s :: t :: rest => if s.isPure then withoutIdle (t :: rest) else s :: withoutIdle (t :: rest)

/-- Whether no semicolon needs to follow. -/
def endsItself : Statement → Bool
  | .branch .. | .switch .. | .block _ | .repeat .. | .each .. | .attempt .. => true
  | _ => false

end Statement

end FormulaSheet.Script
