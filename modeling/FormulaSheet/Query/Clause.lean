import FormulaSheet.Query.Basic
import FormulaSheet.Text.CaseMap

/-!
Reading queries. A clause is a column in quotes, a colon, and a direction, a text in quotes or a
pattern between slashes; a hyphen in front negates it. Clauses are looked for from left to right
in any text, and whatever is no clause is passed over.
-/

namespace FormulaSheet.Query

/-- What a clause says of its column. -/
inductive Directive where
  | sort (direction : Direction)
  | text (wanted : String)
  | pattern (source flags : String)
  deriving DecidableEq, Repr

structure Clause where
  column : String
  directive : Directive
  negated : Bool := false
  deriving DecidableEq, Repr

/-! ## Parts of clauses -/

/-- The text up to the closing quote, without its backslashes, and what follows it. A backslash
takes the next character as it is, but for a line feed. -/
def takeQuoted? : List Char → Option (List Char × List Char)
  | [] => none
  | '"' :: cs => some ([], cs)
  | '\\' :: c :: cs => if c = '\n' then none else (takeQuoted? cs).map fun (s, r) => (c :: s, r)
  | '\\' :: [] => none
  | c :: cs => (takeQuoted? cs).map fun (s, r) => (c :: s, r)

/-- The source of a pattern up to the closing slash, and what follows it. Only a slash loses the
backslash in front of it. -/
def takeSlashed? : List Char → Option (List Char × List Char)
  | [] => none
  | '/' :: cs => some ([], cs)
  | '\\' :: c :: cs =>
    if c = '\n' then none
    else (takeSlashed? cs).map fun (s, r) => ((if c = '/' then ['/'] else ['\\', c]) ++ s, r)
  | '\\' :: [] => none
  | c :: cs => (takeSlashed? cs).map fun (s, r) => (c :: s, r)

/-- Takes a word whatever its case, as it stands. -/
def takeWord? (word : List Char) (cs : List Char) : Option (List Char × List Char) :=
  let found := cs.take word.length
  if found.map Text.fold = word then some (found, cs.drop word.length) else none

/-- Takes the name of a direction, which no character of a word follows. -/
def takeDirection? (cs : List Char) : Option (Direction × List Char) :=
  match takeWord? "asc".toList cs, takeWord? "desc".toList cs with
  | some (_, rest), _ => if rest.head?.any Text.isWord then none else some (.ascending, rest)
  | _, some (found, rest) =>
    if rest.head?.any Text.isWord then none
    else if found.map Char.toLower = "desc".toList then some (.descending, rest)
    else some (.ascending, rest)
  | none, none => none

/-- Takes what stands after the colon of a clause. -/
def takeDirective? : List Char → Option (Directive × List Char)
  | '"' :: cs => (takeQuoted? cs).map fun (s, r) => (.text (String.ofList s), r)
  | '/' :: cs =>
    match takeSlashed? cs with
    | some (c :: s, r) =>
      some (.pattern (String.ofList (c :: s)) (String.ofList (r.takeWhile Text.isAsciiLetter)),
        r.dropWhile Text.isAsciiLetter)
    | _ => none
  | cs => (takeDirection? cs).map fun (d, r) => (.sort d, r)

/-- Takes a clause from its opening quote on. -/
def takeUnsigned? (negated : Bool) : List Char → Option (Clause × List Char)
  | '"' :: cs =>
    match takeQuoted? cs with
    | none => none
    | some (column, cs) =>
      match cs.dropWhile Text.isBlank with
      | ':' :: cs =>
        (takeDirective? (cs.dropWhile Text.isBlank)).map fun (d, r) =>
          (⟨String.ofList column, d, negated⟩, r)
      | _ => none
  | _ => none

/-- Takes a clause with which a text begins. -/
def takeClause? : List Char → Option (Clause × List Char)
  | '-' :: cs => takeUnsigned? true cs
  | cs => takeUnsigned? false cs

/-! ## Lines of clauses -/

/-- The clauses of a text, from left to right. A text of `n` characters has no more than `n`
places to look at. -/
def clausesWithin : Nat → List Char → List Clause
  | 0, _ => []
  | _ + 1, [] => []
  | n + 1, c :: cs =>
    match takeClause? (c :: cs) with
    | some (clause, rest) => clause :: clausesWithin n rest
    | none => clausesWithin n cs

def clauses (text : String) : List Clause := clausesWithin text.length text.toList

/-- The flags that some letters stand for. Three letters change nothing, and all others than these
are refused. -/
def flagsOf? (letters : List Char) : Option Pattern.Flags :=
  letters.foldlM (fun (f : Pattern.Flags) c =>
    match c with
    | 'i' => some { f with ignoreCase := true }
    | 'm' => some { f with multiLine := true }
    | 's' => some { f with dotAll := true }
    | 'x' => some { f with ignoreBlanks := true }
    | 'g' | 'u' | 'y' => some f
    | _ => none) {}

/-- The pattern that some source means with some flags. -/
def compile? (source flags : String) : Option Pattern :=
  (flagsOf? flags.toList).bind fun f => Pattern.compile? f source

/-- Adds a clause to a query. A pattern that `compile` refuses adds nothing, and a sort key is not
negated. -/
def addWith (compile : String → String → Option Pattern) (q : Query) (c : Clause) : Query :=
  match c.directive with
  | .sort direction => { q with sorts := q.sorts ++ [⟨c.column, direction⟩] }
  | .text wanted => { q with filters := q.filters ++ [⟨c.column, .text wanted, c.negated⟩] }
  | .pattern source flags =>
    match compile source flags with
    | some p => { q with filters := q.filters ++ [⟨c.column, .pattern source flags p, c.negated⟩] }
    | none => q

/-- The query that a text means, whatever patterns `compile` accepts. -/
def ofSpecWith (compile : String → String → Option Pattern) (spec : String) : Query :=
  (clauses spec).foldl (addWith compile) {}

/-- The query that a text means; every text means one. -/
def ofSpec (spec : String) : Query := ofSpecWith compile? spec

end FormulaSheet.Query
