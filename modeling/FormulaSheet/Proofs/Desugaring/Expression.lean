import FormulaSheet.Proofs.Desugaring.Brackets

/-!
Expressions of names and numbers with logic, conditionals, calls and lists, apart from how they are
written. A style says how the operators look; `formulaStyle` writes formulas, and `scriptStyle`
what they mean in scripts. Both put brackets exactly where an operand binds less tightly than its
place asks for.
-/

namespace FormulaSheet.Desugaring

/-! ## Names and numbers -/

def isIdentifierChar (c : Char) : Bool := Text.isAsciiAlphanumeric c || c == '_'

/-- Words that mean something to the desugaring, those that begin statements included. -/
def reservedWords : List (List Char) :=
  ["null", "undefined", "var", "return", "in"].map String.toList ++ statementWords

/-- A name without a meaning of its own. -/
structure Name where
  chars : List Char
  isIdentifier : chars.all isIdentifierChar = true ∧
    chars.head?.any (fun c => Text.isAsciiLetter c || c == '_') = true
  isFree : chars ∉ reservedWords

inductive Atom where
  | name (n : Name)
  | number (n : Nat)

def Atom.chars : Atom → List Char
  | .name n => n.chars
  | .number n => Nat.toDigits 10 n

/-! ## Expressions -/

inductive Expression where
  | atom (a : Atom)
  | not (e : Expression)
  | and (a b : Expression)
  | or (a b : Expression)
  | cond (c a b : Expression)
  | call (f : Expression) (args : List Expression)
  | array (items : List Expression)

/-- How tightly an expression binds. -/
def Expression.level : Expression → Nat
  | .cond .. => 0
  | .or .. => 1
  | .and .. => 2
  | .not .. => 3
  | _ => 4

/-- How operators are written, and what stands before an item that is not the first. -/
structure Style where
  not : List Char → List Char
  and : List Char → List Char → List Char
  or : List Char → List Char → List Char
  cond : List Char → List Char → List Char → List Char
  comma : Expression → List Char

def bracketed (cs : List Char) : List Char := '(' :: (cs ++ [')'])

/-- The text of an expression in a place that asks for some level. -/
def Expression.within (e : Expression) (level : Nat) (text : List Char) : List Char :=
  if e.level < level then bracketed text else text

mutual

def Expression.write (s : Style) : Expression → List Char
  | .atom a => a.chars
  | .not e => s.not (e.within 3 (e.write s))
  | .and a b => s.and (a.within 2 (a.write s)) (b.within 3 (b.write s))
  | .or a b => s.or (a.within 1 (a.write s)) (b.within 2 (b.write s))
  | .cond c a b => s.cond (c.within 1 (c.write s)) (a.write s) (b.write s)
  | .call f args => f.within 4 (f.write s) ++ bracketed (writeItems s args)
  | .array items => '[' :: (writeItems s items ++ [']'])

def writeItems (s : Style) : List Expression → List Char
  | [] => []
  | e :: es => e.write s ++ writeRest s es

def writeRest (s : Style) : List Expression → List Char
  | [] => []
  | e :: es => s.comma e ++ (e.write s ++ writeRest s es)

end

/-- The key of an entry, up to its value. -/
def keyText (k : Name) : List Char := k.chars ++ ": ".toList

/-- An operand with a key before it, where the place asks for some level. `text` has the key before
its own first operand; before brackets the key stays outside. -/
def Expression.withinKeyed (e : Expression) (level : Nat) (key inside text : List Char) :
    List Char := if e.level < level then key ++ bracketed inside else text

/-- The text of an expression with a key that is part of its first operand. -/
def Expression.writeKeyed (s : Style) (key : List Char) : Expression → List Char
  | .and a b =>
    s.and (a.withinKeyed 2 key (a.write s) (a.writeKeyed s key)) (b.within 3 (b.write s))
  | .or a b =>
    s.or (a.withinKeyed 1 key (a.write s) (a.writeKeyed s key)) (b.within 2 (b.write s))
  | .cond c a b =>
    s.cond (c.withinKeyed 1 key (c.write s) (c.writeKeyed s key)) (a.write s) (b.write s)
  | e => key ++ e.write s

/-- How formulas are written. -/
def formulaStyle : Style where
  not a := '!' :: a
  and a b := a ++ (" && ".toList ++ b)
  or a b := a ++ (" || ".toList ++ b)
  cond c a b := c ++ (" ? ".toList ++ (a ++ (" : ".toList ++ b)))
  comma _ := ", ".toList

/-- What operators are in scripts. -/
def scriptStyle : Style where
  not a := "!truthy(".toList ++ a ++ ")".toList
  and a b := "(\x7b let js_lhs = ".toList ++ a ++ "; if truthy(js_lhs) \x7b ".toList ++ b ++
    " \x7d else \x7b js_lhs \x7d \x7d)".toList
  or a b := "(\x7b let js_lhs = ".toList ++ a ++
    "; if truthy(js_lhs) \x7b js_lhs \x7d else \x7b ".toList ++ b ++ " \x7d \x7d)".toList
  cond c a b := "(if truthy(".toList ++ c ++ ") \x7b ".toList ++ a ++
    " \x7d else \x7b ".toList ++ b ++ " \x7d)".toList
  comma _ := ", ".toList

theorem exists_within (e : Expression) (level : Nat) (text : List Char) :
    (e.level < level ∧ e.within level text = bracketed text) ∨
      (level ≤ e.level ∧ e.within level text = text) := by
  unfold Expression.within
  split
  · exact .inl ⟨‹_›, rfl⟩
  · exact .inr ⟨Nat.le_of_not_lt ‹_›, rfl⟩

/-- Without logic and conditionals outside its groups, an expression is one operand. -/
theorem Expression.writeKeyed_eq (s : Style) (key : List Char) {e : Expression} (h : 3 ≤ e.level) :
    e.writeKeyed s key = key ++ e.write s := by
  cases e with
  | and => simp [Expression.level] at h
  | or => simp [Expression.level] at h
  | cond => simp [Expression.level] at h
  | _ => rfl

/-- Induction over expressions, where the items of calls and lists are expressions too. -/
@[elab_as_elim]
theorem Expression.induct {P : Expression → Prop}
    (atom : ∀ a, P (.atom a)) (not : ∀ e, P e → P (.not e))
    (and : ∀ a b, P a → P b → P (.and a b)) (or : ∀ a b, P a → P b → P (.or a b))
    (cond : ∀ c a b, P c → P a → P b → P (.cond c a b))
    (call : ∀ f args, P f → (∀ e ∈ args, P e) → P (.call f args))
    (array : ∀ items, (∀ e ∈ items, P e) → P (.array items)) (e : Expression) : P e :=
  @Expression.rec P (fun es => ∀ e ∈ es, P e) atom not and or cond call array
    (fun _ h => nomatch h) (fun _ _ he hes => List.forall_mem_cons.mpr ⟨he, hes⟩) e

theorem Expression.withinKeyed_nil (e : Expression) (level : Nat) (text : List Char) :
    e.withinKeyed level [] text text = e.within level text := rfl

@[simp]
theorem Expression.writeKeyed_nil (s : Style) (e : Expression) :
    e.writeKeyed s [] = e.write s := by
  induction e using Expression.induct with
  | and a b iha _ => rw [writeKeyed, iha, withinKeyed_nil, write]
  | or a b iha _ => rw [writeKeyed, iha, withinKeyed_nil, write]
  | cond c a b ihc _ _ => rw [writeKeyed, ihc, withinKeyed_nil, write]
  | _ => rfl

end FormulaSheet.Desugaring
