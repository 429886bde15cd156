import FormulaSheet.Script.Lexer
import FormulaSheet.Script.Term

/-!
Parsing scripts. Nesting is limited: each bracket, block, operand and argument lies a level deeper
than what holds it, and a script that goes too deep is refused. Parsing fails as a whole or gives
the program; where it fails does not matter.
-/

namespace FormulaSheet.Script

namespace Parser

/-- Where the parser stands. -/
structure Context where
  depth : Nat := 0
  limit : Nat
  inFunction : Bool := false
  inLoop : Bool := false
  atTop : Bool := false

/-- The tokens ahead, the variables in scope with the innermost first and whether each is constant,
the variables that the function being read takes from its surroundings, and the functions read so
far; both of these backwards. -/
structure State where
  tokens : List Token
  names : List (String × Bool) := []
  captured : List String := []
  functions : List Function := []
  closures : Nat := 0

end Parser

abbrev Parser := ReaderT Parser.Context (StateT Parser.State Option)

namespace Parser

/-- The deepest nesting of scripts, and of functions in them. -/
def scriptDepth : Nat := 64

def functionDepth : Nat := 32

def refuse : Parser α := fun _ _ => none

def require (condition : Bool) : Parser Unit := if condition then pure () else refuse

/-- Runs a parser a level deeper. -/
def deeper (p : Parser α) : Parser α := fun c s =>
  if c.depth + 1 > c.limit then none else p { c with depth := c.depth + 1 } s

def peek? : Parser (Option Token) := fun _ s => some (s.tokens.head?, s)

def skip : Parser Unit := modify fun s => { s with tokens := s.tokens.drop 1 }

def isMark (m : String) : Option Token → Bool
  | some (.mark n) => m == n
  | _ => false

def isKeyword (w : String) : Option Token → Bool
  | some (.keyword v) => w == v
  | _ => false

def nextIs (m : String) : Parser Bool := return isMark m (← peek?)

def nextIsWord (w : String) : Parser Bool := return isKeyword w (← peek?)

/-- Takes a mark if it comes next. -/
def accept (m : String) : Parser Bool := do
  if ← nextIs m then skip; return true
  else return false

def acceptWord (w : String) : Parser Bool := do
  if ← nextIsWord w then skip; return true
  else return false

def expect (m : String) : Parser Unit := do require (← accept m)

def expectWord (w : String) : Parser Unit := do require (← acceptWord w)

def expectName : Parser String := do
  match ← peek? with
  | some (.name s) => skip; return s
  | _ => refuse

/-- How many steps a loop over the tokens ahead can take. -/
def steps : Parser Nat := return (← get).tokens.length + 1

/-- Runs a parser and forgets the variables it has declared. -/
def inScope (p : Parser α) : Parser α := do
  let names := (← get).names
  let a ← p
  modify fun s => { s with names := names }
  return a

def declare (name : String) (isConst : Bool) : Parser Unit :=
  modify fun s => { s with names := (name, isConst) :: s.names }

/-- Takes note of the use of a variable: one that is not known here comes from the surroundings,
unless it is the name of a function. -/
def useVariable (name : String) : Parser Unit := modify fun s =>
  if s.names.any (·.1 == name) || s.captured.contains name ||
      s.functions.any (·.name == name) then s
  else { s with captured := name :: s.captured }

/-- The parsers that the others are built from. -/
structure Parts where
  expr : Parser Expr
  unary : Parser Expr
  block : Parser (List Statement)
  statement : Parser (Option Statement)

/-! ## Checks of constants -/

/-- Whether a constant can stand where a truth value is needed. -/
def mayBeBool : Expr → Bool
  | .unit | .int _ | .float _ | .char _ | .text _ | .template _ | .array _ | .map _ => false
  | _ => true

/-- Whether a constant can stand where a loop takes its items from. -/
def mayBeItems : Expr → Bool
  | .unit | .bool _ | .int _ | .float _ | .char _ | .text _ | .template _ | .map _ => false
  | _ => true

/-- Whether an expression may be a whole number, a text or neither as far as its form tells. -/
def mayBePosition (text : Bool) : Expr → Bool
  | .int _ => !text
  | .text _ | .template _ => text
  | .float _ | .char _ | .unit | .bool _ | .both .. | .either .. => false
  | _ => true

/-- Whether one expression can be an index of another one as far as their forms tell. -/
def mayIndex (base position : Expr) : Bool :=
  match base with
  | .map _ => mayBePosition true position
  | .int _ | .array _ | .text _ | .template _ => mayBePosition false position
  | _ => true

/-! ## Operators -/

/-- How tightly a binary operator binds. -/
def precedence : Option Token → Nat
  | some (.mark m) =>
    match m with
    | "||" | "|" | "^" => 30
    | "&&" | "&" => 60
    | "==" | "!=" => 90
    | "!in" => 110
    | "<" | "<=" | ">" | ">=" => 130
    | "??" => 135
    | ".." | "..=" => 140
    | "+" | "-" => 150
    | "*" | "/" | "%" => 180
    | "**" => 190
    | "<<" | ">>" => 210
    | _ => 0
  | some (.keyword "in") => 110
  | _ => 0

/-- Only powers group from the right. -/
def groupsRight : Option Token → Bool := isMark "**"

/-- The expression of a binary operator and its operands. -/
def combine (op : Option Token) (a b : Expr) : Parser Expr :=
  match op with
  | some (.mark "&&") => do require (mayBeBool a && mayBeBool b); return .both a b
  | some (.mark "||") => do require (mayBeBool a && mayBeBool b); return .either a b
  | some (.mark "??") => return .orElse a b
  | some (.mark "!in") => return .call "!" [.call "contains" [b, a]]
  | some (.keyword "in") => return .call "contains" [b, a]
  | some (.mark m) => return .call m [a, b]
  | _ => refuse

/-- Goes on after an operand while operators bind tighter than `outer`. Every further operand
lies a level deeper. -/
def binary (r : Parts) : Nat → Nat → Expr → Parser Expr
  | 0, _, root => return root
  | fuel + 1, outer, root => do
    let op ← peek?
    let strength := precedence op
    if strength = 0 ∨ strength < outer ∨ (strength = outer ∧ !groupsRight op) then return root
    skip
    let right ← r.unary
    let next ← peek?
    let right ←
      if strength < precedence next ∨ (strength = precedence next ∧ groupsRight op) then
        binary r fuel strength right
      else pure right
    let whole ← combine op root right
    deeper (binary r fuel outer whole)

def exprOf (r : Parts) : Parser Expr :=
  deeper do
    let first ← r.unary
    binary r (← steps) 1 first

def unaryOf (r : Parts) (primary : Parser Expr) : Parser Expr := do
  match ← peek? with
  | some (.mark "-") =>
    skip
    match ← deeper r.unary with
    | .int n => return .int (-n)
    | .float x => return .float (-x)
    | e => return .call "-" [e]
  | some (.mark "+") =>
    skip
    match ← deeper r.unary with
    | .int n => return .int n
    | .float x => return .float x
    | e => return .call "+" [e]
  | some (.mark "!") => skip; return .call "!" [← deeper r.unary]
  | _ => primary

/-! ## Parts of expressions -/

/-- Items between commas up to a closing mark; a comma may stand after the last one. -/
def listOf (item : Parser α) (close : String) : Nat → Parser (List α)
  | 0 => refuse
  | fuel + 1 => do
    if ← accept close then return []
    let first ← item
    if ← accept "," then return first :: (← listOf item close fuel)
    expect close
    return [first]

def argumentsOf (r : Parts) : Parser (List Expr) := do
  expect "("
  deeper (do listOf r.expr ")" (← steps))

def entryOf (r : Parts) : Parser (String × Expr) := do
  let key ← match ← peek? with
    | some (.name s) => pure s
    | some (.text s) => pure s
    | _ => refuse
  skip
  expect ":"
  return (key, ← r.expr)

def mapOf (r : Parts) : Parser Expr := do
  let entries ← listOf (deeper (entryOf r)) "\x7d" (← steps)
  require (entries.map Prod.fst).Nodup
  return .map entries

/-- The text of a template and the blocks between its pieces. -/
def templateOf (r : Parts) : Nat → Parser (List Expr)
  | 0 => refuse
  | fuel + 1 => do
    let piece := fun (s : String) => if s.isEmpty then [] else [Expr.text s]
    match ← peek? with
    | some (.text s) => skip; return piece s
    | some (.piece s) =>
      skip
      let body ← r.block
      return piece s ++ .statement (.block body) :: (← templateOf r fuel)
    | _ => refuse

/-- The names between the bars of a closure. -/
def parametersOf (close : String) : Nat → Parser (List String)
  | 0 => refuse
  | fuel + 1 => do
    if ← accept close then return []
    let first ← expectName
    if ← accept "," then return first :: (← parametersOf close fuel)
    expect close
    return [first]

/-- Reads the body of a function with variables of its own; gives it with those it takes from its
surroundings. -/
def functionBody (names : List String) (body : Parser α) : Parser (α × List String) := do
  let outer ← get
  set { outer with names := names.reverse.map fun n => (n, false), captured := [] }
  let a ← fun c s =>
    body { c with depth := 0, limit := functionDepth, inFunction := true, inLoop := false
                  atTop := false } s
  let inner ← get
  set { inner with names := outer.names, captured := outer.captured }
  return (a, inner.captured.reverse)

/-- A closure becomes a function of the variables that it captures and its parameters. -/
def closureOf (family : String) (r : Parts) (names : List String) : Parser Expr := do
  require names.Nodup
  let (body, captures) ← functionBody names (deeper r.statement)
  captures.forM useVariable
  let s ← get
  let name := s!"{family}${s.closures}"
  set { s with
    closures := s.closures + 1
    functions := ⟨name, captures ++ names, body.toList⟩ :: s.functions }
  return .closure name captures

/-- Further names of a path. -/
def pathOf (path : String) : Nat → Parser String
  | 0 => refuse
  | fuel + 1 => do
    if ← accept "::" then pathOf (path ++ "::" ++ (← expectName)) fuel else return path

/-- A name on its own, the call of a function or a path. -/
def nameOf (r : Parts) (name : String) : Parser Expr := do
  skip
  if ← nextIs "(" then return .call name (← argumentsOf r)
  if ← nextIs "::" then
    let path ← pathOf name (← steps)
    if ← nextIs "(" then return .pathCall path (← argumentsOf r) else return .constant path
  useVariable name
  return .variable name

/-! ## Statements that have values -/

/-- A condition that a block follows. -/
def conditionOf (r : Parts) : Parser Expr := do
  require !(← nextIs "\x7b")
  let e ← r.expr
  require (mayBeBool e)
  return e

def branchOf (r : Parts) : Nat → Parser Statement
  | 0 => refuse
  | fuel + 1 => do
    expectWord "if"
    let condition ← conditionOf r
    let onTrue ← r.block
    if ← acceptWord "else" then
      if ← nextIsWord "if" then
        return .branch condition onTrue [← deeper (branchOf r fuel)]
      else return .branch condition onTrue (← r.block)
    else return .branch condition onTrue []

def inLoop (p : Parser α) : Parser α := fun c s => p { c with inLoop := true } s

def loopBody (r : Parts) : Parser (List Statement) := do
  let body ← inLoop r.block
  return if Statement.allPure body then [] else body

def doOf (r : Parts) : Parser Statement := do
  expectWord "do"
  let body ← loopBody r
  let wanted ← if ← acceptWord "while" then pure true else do expectWord "until"; pure false
  return .repeatAfter body (← conditionOf r) wanted

def eachOf (r : Parts) : Parser Statement := do
  expectWord "for"
  let (name, counter) ←
    if ← accept "(" then
      let name ← expectName
      expect ","
      let counter ← expectName
      expect ")"
      require (name != counter)
      pure (name, some counter)
    else pure (← expectName, none)
  expectWord "in"
  require !(← nextIs "\x7b")
  let items ← r.expr
  require (mayBeItems items)
  let body ← inScope do
    counter.forM fun n => declare n false
    declare name false
    loopBody r
  return .each name counter items body

/-- Whether an expression can be the pattern of a case. -/
def isPattern : Expr → Bool
  | .call ".." [.int _, .int _] | .call "..=" [.int _, .int _] => true
  | e => e.isConstant

/-- The patterns of a case, between single bars. -/
def patternsOf (r : Parts) : Nat → Parser (List Expr)
  | 0 => refuse
  | fuel + 1 => do
    let first ← r.unary
    let first ← match ← peek? with
      | some (.mark ".." ) => skip; pure (.call ".." [first, ← r.unary])
      | some (.mark "..=") => skip; pure (.call "..=" [first, ← r.unary])
      | _ => pure first
    require (isPattern first)
    if ← accept "|" then return first :: (← patternsOf r fuel) else return [first]

def casesOf (r : Parts) : Nat → Parser (List Case)
  | 0 => refuse
  | fuel + 1 => do
    if ← accept "\x7d" then return []
    let patterns ← if ← accept "_" then pure [] else patternsOf r (← steps)
    let condition ← if ← acceptWord "if" then some <$> r.expr else pure none
    require !(patterns.isEmpty && condition.isSome)
    expect "=>"
    let body := (← r.statement).getD (.expr .unit)
    if ← accept "," then pure ()
    else require (body.endsItself || (← nextIs "\x7d"))
    return .mk patterns condition body :: (← casesOf r fuel)

def switchOf (r : Parts) : Parser Statement := do
  expectWord "switch"
  let value ← r.expr
  expect "\x7b"
  return .switch value (← casesOf r (← steps))

def repeatOf (r : Parts) : Parser Statement := do
  if ← acceptWord "loop" then return .repeat none (← loopBody r)
  expectWord "while"
  let condition ← conditionOf r
  return .repeat (some condition) (← loopBody r)

/-- The statement that a keyword begins and that also is an expression. -/
def controlOf? (r : Parts) (word : String) : Option (Parser Statement) :=
  match word with
  | "if" => some (do branchOf r (← steps))
  | "switch" => some (switchOf r)
  | "while" | "loop" => some (repeatOf r)
  | "do" => some (doOf r)
  | "for" => some (eachOf r)
  | _ => none

/-! ## Primary expressions and what follows them -/

def primaryOf (family : String) (r : Parts) : Parser Expr := do
  match ← peek? with
  | some (.int n) => skip; return .int n
  | some (.float x) => skip; return .float x
  | some (.char c) => skip; return .char c
  | some (.text s) => skip; return .text s
  | some (.piece _) =>
    match ← templateOf r (← steps) with
    | [] => return .text ""
    | parts => return .template parts
  | some (.name name) => nameOf r name
  | some (.reserved "this") =>
    skip
    require (← read).inFunction
    return .this
  | some (.reserved w) =>
    skip
    require (Token.functionWords.contains w)
    return .call w (← argumentsOf r)
  | some (.keyword "true") => skip; return .bool true
  | some (.keyword "false") => skip; return .bool false
  | some (.keyword w) =>
    match controlOf? r w with
    | some control => return .statement (← deeper control)
    | none => refuse
  | some (.mark "(") =>
    skip
    if ← accept ")" then return .unit
    let e ← deeper (deeper r.expr)
    expect ")"
    return e
  | some (.mark "[") =>
    skip
    return .array (← deeper (do listOf (deeper r.expr) "]" (← steps)))
  | some (.mark "#\x7b") => skip; deeper (mapOf r)
  | some (.mark "\x7b") => return .statement (.block (← deeper r.block))
  | some (.mark "||") => skip; closureOf family r []
  | some (.mark "|") =>
    skip
    let names ← parametersOf "|" (← steps)
    closureOf family r names
  | _ => refuse

/-- A member after a point. -/
def memberOf (r : Parts) (optional : Bool) : Parser Link := do
  let name ← match ← peek? with
    | some (.name s) => pure s
    | some (.reserved s) => do require (Token.methodWords.contains s); pure s
    | _ => refuse
  skip
  if ← nextIs "(" then return .method optional name (← argumentsOf r)
  return .property optional name

def indexOf (r : Parts) (optional : Bool) (base : Expr) : Parser Link := do
  let e ← r.expr
  require (mayIndex base e)
  expect "]"
  return .index optional e

/-- The steps into a value; each lies a level deeper than the one before. -/
def linksOf (r : Parts) (base : Expr) : Nat → Parser (List Link)
  | 0 => return []
  | fuel + 1 => do
    let go := fun (link : Parser Link) => do
      let l ← link
      return l :: (← deeper (linksOf r (.chain base []) fuel))
    match ← peek? with
    | some (.mark ".") => skip; go (memberOf r false)
    | some (.mark "?.") => skip; go (memberOf r true)
    | some (.mark "[") => skip; go (deeper (indexOf r false base))
    | some (.mark "?[") => skip; go (deeper (indexOf r true base))
    | _ => return []

def chainOf (family : String) (r : Parts) : Parser Expr := do
  let base ← primaryOf family r
  match ← linksOf r base (← steps), base with
  | [], base => return base
  | links, .chain base first => return .chain base (first ++ links)
  | links, base => return .chain base links

/-! ## Statements -/

/-- Operators that change a variable, by their marks. -/
def updateOperator? : Option Token → Option (Option String)
  | some (.mark m) =>
    match m with
    | "=" => some none
    | "+=" => some (some "+")
    | "-=" => some (some "-")
    | "*=" => some (some "*")
    | "/=" => some (some "/")
    | "%=" => some (some "%")
    | "**=" => some (some "**")
    | "<<=" => some (some "<<")
    | ">>=" => some (some ">>")
    | "&=" => some (some "&")
    | "|=" => some (some "|")
    | "^=" => some (some "^")
    | _ => none
  | _ => none

def isMethod : Link → Bool
  | .method .. => true
  | _ => false

/-- Whether an expression can be assigned to: a variable that is not constant, or a member or
index of one. -/
def isAssignable (names : List (String × Bool)) : Expr → Bool
  | .variable name => !((names.find? (·.1 == name)).any Prod.snd)
  | .this => true
  | .chain base links =>
    !links.any isMethod &&
      match base with
      | .variable name => !((names.find? (·.1 == name)).any Prod.snd)
      | .this => true
      | _ => false
  | _ => false

def exprStatement (r : Parts) : Parser Statement := do
  let e ← r.expr
  match updateOperator? (← peek?) with
  | none =>
    match e with
    | .statement s => return s
    | e => return .expr e
  | some op =>
    skip
    let value ← r.expr
    require (isAssignable (← get).names e)
    return .assign e op value

def declaration (r : Parts) (isConst : Bool) : Parser Statement := do
  skip
  let name ← expectName
  let value ← if ← accept "=" then r.expr else pure .unit
  declare name isConst
  return .declare name value

/-- The value after `return`, `throw` or `break`, if there is one. -/
def valueOf? (r : Parts) : Parser (Option Expr) := do
  skip
  match ← peek? with
  | none | some (.mark ";") | some (.mark "\x7d") => return none
  | _ => return some (← deeper r.expr)

def attemptOf (r : Parts) : Parser Statement := do
  skip
  let body ← r.block
  expectWord "catch"
  if ← accept "(" then
    let name ← expectName
    expect ")"
    let handler ← inScope do declare name false; r.block
    return .attempt body (some name) handler
  else return .attempt body none (← r.block)

/-- A function with a name; no two of one name take the same number of parameters. -/
def functionOf (r : Parts) : Parser Unit := do
  require (← read).atTop
  let _ ← acceptWord "private"
  expectWord "fn"
  let name ← expectName
  expect "("
  let names ← parametersOf ")" (← steps)
  require names.Nodup
  let (body, _) ← functionBody names r.block
  let s ← get
  require !(s.functions.any fun f => f.name == name && f.parameters.length == names.length)
  set { s with functions := ⟨name, names, body⟩ :: s.functions }

def belowTop (p : Parser α) : Parser α := fun c s => p { c with atTop := false } s

/-- A statement, or nothing for a semicolon or the definition of a function. -/
def statementOf (r : Parts) : Parser (Option Statement) := do
  match ← peek? with
  | none => refuse
  | some (.mark ";") => skip; return none
  | some (.keyword "fn") | some (.keyword "private") => functionOf r; return none
  | token =>
    belowTop (deeper do
      match token with
      | some (.mark "\x7b") => return some (.block (← r.block))
      | some (.keyword "let") => return some (← deeper (declaration r false))
      | some (.keyword "const") => return some (← deeper (declaration r true))
      | some (.keyword "return") => return some (.give (← valueOf? r))
      | some (.keyword "throw") => return some (.raise (← valueOf? r))
      | some (.keyword "break") => require (← read).inLoop; return some (.leave (← valueOf? r))
      | some (.keyword "continue") => require (← read).inLoop; skip; return some .next
      | some (.keyword "try") => return some (← deeper (attemptOf r))
      | some (.keyword w) =>
        match controlOf? r w with
        | some control => return some (← deeper control)
        | none => return some (← deeper (exprStatement r))
      | _ => return some (← deeper (exprStatement r)))

/-- Statements up to a closing brace or, at the top, the end. A semicolon stands after each that
does not end itself. -/
def statementsOf (r : Parts) (done : Parser Bool) : Nat → Parser (List Statement)
  | 0 => refuse
  | fuel + 1 => do
    if ← done then return []
    match ← r.statement with
    | none => statementsOf r done fuel
    | some s =>
      if ← accept ";" then return s :: (← statementsOf r done fuel)
      else if s.endsItself then return s :: (← statementsOf r done fuel)
      else do
        require (← done)
        return [s]

def blockOf (r : Parts) : Parser (List Statement) := do
  expect "\x7b"
  let body ← belowTop (inScope do statementsOf r (accept "\x7d") (← steps))
  return Statement.withoutIdle body

/-- The parsers at a bound on how often they use one another. -/
def parts (family : String) : Nat → Parts
  | 0 => ⟨refuse, refuse, refuse, refuse⟩
  | n + 1 =>
    { expr := fun c s => exprOf (parts family n) c s
      unary := fun c s => unaryOf (parts family n) (chainOf family (parts family n)) c s
      block := fun c s => blockOf (parts family n) c s
      statement := fun c s => statementOf (parts family n) c s }

def atEnd : Parser Bool := return (← peek?).isNone

/-- Reads all statements of a script. -/
def script (family : String) (bound : Nat) : Parser (List Statement) := do
  statementsOf (parts family bound) atEnd (← steps)

end Parser

/-- Parses a script that starts with some variables. Closures are named after `family`. -/
def Program.parse? (family : String) (known : List String) (script : String) :
    Option Program := do
  let tokens ← Lexer.tokens? script
  let bound := 8 * (tokens.length + 8)
  let start : Parser.State := { tokens := tokens, names := known.map fun n => (n, false) }
  let (body, s) ← Parser.script family bound { limit := Parser.scriptDepth, atTop := true } start
  return ⟨s.functions.reverse, Statement.withoutIdle body⟩

end FormulaSheet.Script
