import FormulaSheet.Pattern.Charset

/-!
Patterns and the texts that they match. A pattern is followed through a text by its continuations:
what is left of it after each character. Some parts match no characters but a place between two,
so a place is known by its neighbours.
-/

namespace FormulaSheet

namespace Pattern

/-- A place in a text by the characters around it. -/
structure Place where
  before : Option Char
  after : Option Char

/-- What can be asked of a place. -/
inductive Assertion where
  | textStart
  | textEnd
  | lineStart
  | lineEnd
  /-- Line ends may also be carriage returns, alone or before a line feed. -/
  | anyLineStart
  | anyLineEnd
  /-- Between a character of a word and another one. -/
  | boundary (word : Charset)
  | noBoundary (word : Charset)
  | wordStart (word : Charset)
  | wordEnd (word : Charset)
  | beforeNoWord (word : Charset)
  | afterNoWord (word : Charset)
  deriving DecidableEq, Repr

/-- Whether a neighbour is a character of a word. -/
def isWordOf (word : Charset) (c : Option Char) : Bool := c.any word.contains

namespace Assertion

def holds (p : Place) : Assertion → Bool
  | .textStart => p.before.isNone
  | .textEnd => p.after.isNone
  | .lineStart => p.before.isNone || p.before == some '\n'
  | .lineEnd => p.after.isNone || p.after == some '\n'
  | .anyLineStart =>
    p.before.isNone || p.before == some '\n' || (p.before == some '\r' && p.after != some '\n')
  | .anyLineEnd =>
    p.after.isNone || p.after == some '\r' || (p.after == some '\n' && p.before != some '\r')
  | .boundary w => isWordOf w p.before != isWordOf w p.after
  | .noBoundary w => isWordOf w p.before == isWordOf w p.after
  | .wordStart w => !isWordOf w p.before && isWordOf w p.after
  | .wordEnd w => isWordOf w p.before && !isWordOf w p.after
  | .beforeNoWord w => !isWordOf w p.after
  | .afterNoWord w => !isWordOf w p.before

end Assertion

end Pattern

open Pattern

/-- What a text, or a part of it, is held against. -/
inductive Pattern where
  | empty
  | one (s : Charset)
  | place (a : Assertion)
  | both (a b : Pattern)
  | either (a b : Pattern)
  /-- At least `least` times, and at most `most` times if that is given. -/
  | times (a : Pattern) (least : Nat) (most : Option Nat)
  deriving DecidableEq, Repr

namespace Pattern

/-- Whether a pattern matches the empty text at a place. -/
def matchesEmpty (p : Place) : Pattern → Bool
  | .empty => true
  | .one _ => false
  | .place a => a.holds p
  | .both a b => a.matchesEmpty p && b.matchesEmpty p
  | .either a b => a.matchesEmpty p || b.matchesEmpty p
  | .times a least _ => least == 0 || a.matchesEmpty p

/-- One pattern and then another one. -/
def followedBy : Pattern → Pattern → Pattern
  | .empty, b => b
  | a, b => .both a b

/-- What is left of a pattern, in several ways, once it has taken the character after a place. Of a
repetition, rounds that take nothing can come before the one that takes the character. -/
def rest (p : Place) (c : Char) : Pattern → List Pattern
  | .empty => []
  | .one s => if s.contains c then [.empty] else []
  | .place _ => []
  | .both a b =>
    let first := (a.rest p c).map fun r => followedBy r b
    if a.matchesEmpty p then first ++ b.rest p c else first
  | .either a b => a.rest p c ++ b.rest p c
  | .times a least most =>
    if most = some 0 then []
    else
      let least := if a.matchesEmpty p then 0 else least - 1
      (a.rest p c).map fun r => followedBy r (.times a least (most.map (· - 1)))

/-- Follows a pattern from every place of a text on, where `states` is what is left of it from
earlier places. -/
def search (pattern : Pattern) : List Pattern → Option Char → List Char → Bool
  | states, before, cs =>
    let place : Place := ⟨before, cs.head?⟩
    let states := (pattern :: states).eraseDups
    states.any (matchesEmpty place) ||
      match cs with
      | [] => false
      | c :: cs => search pattern (states.flatMap (rest place c)) (some c) cs

/-- Whether a pattern matches some part of a text. -/
def isIn (pattern : Pattern) (text : String) : Bool := search pattern [] none text.toList

end Pattern

end FormulaSheet
