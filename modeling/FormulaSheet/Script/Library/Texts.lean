import FormulaSheet.Script.Library.Native
import FormulaSheet.Text.CaseMap

/-!
Ready functions on text. Positions count characters; those that cut or replace text change it in
place.
-/

namespace FormulaSheet.Script.Texts

open Answer

/-- What stands before and after the first place of a piece. -/
def cut? (piece : List Char) : List Char → Option (List Char × List Char)
  | [] => if piece.isEmpty then some ([], []) else none
  | c :: cs =>
    if piece.isPrefixOf (c :: cs) then some ([], (c :: cs).drop piece.length)
    else (cut? piece cs).map fun (a, b) => (c :: a, b)

def contains (piece cs : List Char) : Bool := (cut? piece cs).isSome

/-- The parts of a text between the places of a piece, at most `fuel` cuts. -/
def splitAt (piece : List Char) : Nat → List Char → List (List Char)
  | 0, cs => [cs]
  | fuel + 1, cs =>
    match cut? piece cs with
    | some (a, b) => a :: splitAt piece fuel b
    | none => [cs]

/-- The parts of a text between the places of a piece; an empty piece separates characters. -/
def split (piece cs : List Char) : List (List Char) :=
  if piece.isEmpty then [] :: cs.map (fun c => [c]) ++ [[]] else splitAt piece cs.length cs

def replaceAll (piece new cs : List Char) : List Char := new.intercalate (split piece cs)

/-- The words between blanks. -/
def words (cs : List Char) : List (List Char) :=
  (cs.splitBy fun a b => Text.isBlank a == Text.isBlank b).filter fun w =>
    !(w.head?).any Text.isBlank

def texts (parts : List (List Char)) : Value :=
  .array (parts.map fun p => Value.text (String.ofList p)).toArray

/-- Text from text and characters. -/
def piece? : Value → Option (List Char)
  | .text s => some s.toList
  | .char c => some [c]
  | _ => none

def part (cs : List Char) (start len : Int) : List Char :=
  (cs.drop (clampIndex cs.length start)).take len.toNat

def find (piece cs : List Char) (start : Nat) : Value :=
  match cut? piece (cs.drop start) with
  | some (a, _) => .int (start + a.length : Nat)
  | none => .int (-1)

def toValue (cs : List Char) : Value := .text (String.ofList cs)

/-- Functions of a text and further arguments. -/
def call? (name : String) (s : String) (args : List Value) : Answer :=
  let cs := s.toList
  match name, args with
  | "len", [] => ofNat cs.length
  | "bytes", [] => ofNat s.utf8ByteSize
  | "is_empty", [] => ofBool s.isEmpty
  | "chars", [] => gives (.sequence (cs.map .char))
  | "to_chars", [] => gives (.array (cs.map Value.char).toArray)
  | "to_upper", [] => gives (.text (Text.toUpper s))
  | "to_lower", [] => gives (.text (Text.toLower s))
  | "make_upper", [] => changes (.text (Text.toUpper s)) .unit
  | "make_lower", [] => changes (.text (Text.toLower s)) .unit
  | "trim", [] => changes (toValue (Number.trimmed cs)) .unit
  | "clear", [] => changes (.text "") .unit
  | "truncate", [.int n] => changes (toValue (cs.take n.toNat)) .unit
  | "pop", [] =>
    match cs.getLast? with
    | some c => changes (toValue cs.dropLast) (.char c)
    | none => gives .unit
  | "pop", [.int n] =>
    let kept := cs.length - n.toNat
    changes (toValue (cs.take kept)) (toValue (cs.drop kept))
  | "starts_with", [p] => (piece? p).bind fun p => ofBool (p.isPrefixOf cs)
  | "ends_with", [p] => (piece? p).bind fun p => ofBool (p.isSuffixOf cs)
  | "contains", [p] => (piece? p).bind fun p => ofBool (contains p cs)
  | "index_of", [p] => (piece? p).bind fun p => gives (find p cs 0)
  | "index_of", [p, .int i] => (piece? p).bind fun p => gives (find p cs (clampIndex cs.length i))
  | "sub_string", [.int i] => ofText (cs.drop (clampIndex cs.length i))
  | "sub_string", [.int i, .int n] => ofText (part cs i n)
  | "sub_string", [.range a b closed] =>
    let (i, n) := clampRange cs.length a b closed
    ofText ((cs.drop i).take n)
  | "crop", [.int i] => changes (toValue (cs.drop (clampIndex cs.length i))) .unit
  | "crop", [.int i, .int n] => changes (toValue (part cs i n)) .unit
  | "replace", [p, q] =>
    match piece? p, piece? q with
    | some p, some q => changes (toValue (replaceAll p q cs)) .unit
    | _, _ => none
  | "remove", [p] => (piece? p).bind fun p => changes (toValue (replaceAll p [] cs)) .unit
  | "append", [v] => changes (.text (s ++ v.scriptText)) .unit
  | "pad", [.int n, p] =>
    (piece? p).bind fun p =>
      let missing := n.toNat - cs.length
      if n.toNat > Limits.textBytes then fails .tooLarge
      else if p.isEmpty then gives .unit
      else
        let fill := (List.replicate (missing / p.length + 1) p).flatten
        changes (toValue (cs ++ fill.take missing)) .unit
  | "split", [] => gives (texts (words cs))
  | "split", [.int i] =>
    let k := clampIndex cs.length i
    gives (texts [cs.take k, cs.drop k])
  | "split", [p] => (piece? p).bind fun p => gives (texts (split p cs))
  | "split", [p, .int n] =>
    (piece? p).bind fun p => gives (texts (splitAt p (n.toNat - 1) cs))
  | "split_rev", [p] => (piece? p).bind fun p => gives (texts (split p cs).reverse)
  | "get", [.int i] =>
    gives (((index? cs.length i).bind (cs[·]?)).elim .unit .char)
  | "set", [.int i, .char c] =>
    match index? cs.length i with
    | some k => changes (toValue (cs.set k c)) .unit
    | none => gives .unit
  | "min", [.text t] => gives (.text (if t < s then t else s))
  | "max", [.text t] => gives (.text (if t < s then s else t))
  | "parse_int", [] =>
    let (negative, ds) := Number.splitSign (Number.trimmed cs)
    if ds.isEmpty ∨ !ds.all Text.isAsciiDigit then fails .arithmetic
    else some ((Operator.whole (if negative then -Number.ofDigits ds else Number.ofDigits ds)).map
      fun v => ⟨v, none⟩)
  | "parse_float", [] =>
    match Number.Numeral.ofChars? (Number.trimmed cs) with
    | some n => gives (.float n.toFloat)
    | none => fails .arithmetic
  | _, _ => none

/-- Members of a text. -/
def property? (s : String) (name : String) : Option Value :=
  match name with
  | "len" => some (.int s.length)
  | "bytes" => some (.int s.utf8ByteSize)
  | "is_empty" => some (.bool s.isEmpty)
  | "chars" => some (.sequence (s.toList.map .char))
  | _ => none

end FormulaSheet.Script.Texts
