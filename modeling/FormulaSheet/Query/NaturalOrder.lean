import FormulaSheet.Text.CaseMap
import FormulaSheet.Text.Classes

/-!
The natural order of texts. A text is cut into runs of digits and runs of other characters, and
texts compare run by run: runs of digits by their size, other runs in lower case, and digits come
before other characters. So `2` comes before `10`, and case does not matter.
-/

namespace FormulaSheet.NaturalOrder

/-- A run of characters that are all digits or all not. -/
structure Run where
  areDigits : Bool
  chars : List Char
  deriving DecidableEq, Repr

namespace Run

/-- Puts a character before a list of runs. -/
def cons (c : Char) : List Run → List Run
  | [] => [⟨Text.isAsciiDigit c, [c]⟩]
  | r :: rs =>
    if r.areDigits = Text.isAsciiDigit c then ⟨r.areDigits, c :: r.chars⟩ :: rs
    else ⟨Text.isAsciiDigit c, [c]⟩ :: r :: rs

end Run

/-- The longest runs of a text, in order. -/
def runs (cs : List Char) : List Run := cs.foldr Run.cons []

/-- Compares digits by their size: zeros in front aside, the longer ones are the greater. -/
def compareDigits (a b : List Char) : Ordering :=
  let a := a.dropWhile (· == '0')
  let b := b.dropWhile (· == '0')
  (Ord.compare a.length b.length).then (List.compareLex Ord.compare a b)

def Run.compare (a b : Run) : Ordering :=
  match a.areDigits, b.areDigits with
  | true, true => compareDigits a.chars b.chars
  | true, false => .lt
  | false, true => .gt
  | false, false => List.compareLex Ord.compare (Text.lower a.chars) (Text.lower b.chars)

/-- Compares two texts in natural order. -/
def compare (a b : String) : Ordering :=
  List.compareLex Run.compare (runs a.toList) (runs b.toList)

end FormulaSheet.NaturalOrder
