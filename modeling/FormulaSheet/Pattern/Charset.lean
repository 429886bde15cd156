import FormulaSheet.Text.CaseMap
import FormulaSheet.Text.Classes
import FormulaSheet.Text.Symbol
import FormulaSheet.Text.WritingSystem

/-!
Sets of characters, as patterns describe them: ranges, classes of characters and combinations of
these.
-/

namespace FormulaSheet.Pattern

inductive Charset where
  | range (first last : Char)
  | blanks
  /-- Decimal digits of any script. -/
  | digits
  /-- Characters of words of any script. -/
  | wordChars
  | alphabetic
  | lowercase
  | uppercase
  | category (c : Text.Category)
  /-- The categories of one letter. -/
  | major (letter : Char)
  | writingSystem (name : String)
  | symbol (name : String)
  /-- Everything that differs from a member in case alone. -/
  | folded (s : Charset)
  /-- The same, for the letters of English only. -/
  | foldedAscii (s : Charset)
  | complement (s : Charset)
  | union (s t : Charset)
  | inter (s t : Charset)
  deriving DecidableEq, Repr

namespace Charset

def ofChar (c : Char) : Charset := .range c c

/-- No characters at all. -/
def none : Charset := .range 'b' 'a'

def any : Charset := .complement none

def ofChars : List Char → Charset
  | [] => none
  | [c] => ofChar c
  | c :: cs => .union (ofChar c) (ofChars cs)

def difference (s t : Charset) : Charset := .inter s (.complement t)

/-- What belongs to one set only. -/
def exclusive (s t : Charset) : Charset := difference (.union s t) (.inter s t)

/-- Capital characters that are no letters. -/
private def otherUppercase : Text.Table.Ranges := .decode
  "2160-216f 24b6-24cf 1f130-1f149 1f150-1f169 1f170-1f189"

def isUppercase (c : Char) : Bool :=
  Text.Category.of c == .lu || otherUppercase.contains c.toNat

def isLowercase (c : Char) : Bool :=
  Text.isCased c && !isUppercase c && Text.Category.of c != .lt

/-- The other case of an English letter. -/
def otherCase (c : Char) : Char :=
  if 'a' ≤ c ∧ c ≤ 'z' then Char.ofNat (c.toNat - 32)
  else if 'A' ≤ c ∧ c ≤ 'Z' then Char.ofNat (c.toNat + 32)
  else c

/-- Whether a character belongs to a set. -/
def contains : Charset → Char → Bool
  | .range a b, c => a ≤ c && c ≤ b
  | .blanks, c => Text.isBlank c
  | .digits, c => Text.isDigit c
  | .wordChars, c => Text.isWord c
  | .alphabetic, c => Text.isAlphabetic c
  | .lowercase, c => isLowercase c
  | .uppercase, c => isUppercase c
  | .category k, c => Text.Category.of c == k
  | .major letter, c => (Text.Category.of c).major == letter
  | .writingSystem name, c =>
    ((Text.WritingSystem.ofName? name).map (·.contains c.toNat)).getD false
  | .symbol name, c => ((Text.Symbol.ofName? name).map (·.contains c.toNat)).getD false
  | .folded s, c => (Text.caseVariants c).any s.contains
  | .foldedAscii s, c => s.contains c || s.contains (otherCase c)
  | .complement s, c => !s.contains c
  | .union s t, c => s.contains c || t.contains c
  | .inter s t, c => s.contains c && t.contains c

/-- Digits, letters and the underscore of English. -/
def asciiWord : Charset :=
  .union (.range '0' '9') (.union (.range 'a' 'z') (.union (.range 'A' 'Z') (ofChar '_')))

def asciiBlanks : Charset := ofChars ['\t', '\n', Char.ofNat 11, Char.ofNat 12, '\r', ' ']

/-- The classes that a pattern names between colons. -/
def ofAsciiName? (name : String) : Option Charset :=
  let letters := Charset.union (.range 'a' 'z') (.range 'A' 'Z')
  match name with
  | "alnum" => some (.union (.range '0' '9') letters)
  | "alpha" => some letters
  | "ascii" => some (.range (Char.ofNat 0) (Char.ofNat 127))
  | "blank" => some (ofChars ['\t', ' '])
  | "cntrl" => some (.union (.range (Char.ofNat 0) (Char.ofNat 31)) (ofChar (Char.ofNat 127)))
  | "digit" => some (.range '0' '9')
  | "graph" => some (.range '!' '~')
  | "lower" => some (.range 'a' 'z')
  | "print" => some (.range ' ' '~')
  | "punct" =>
    some (.union (.union (.range '!' '/') (.range ':' '@'))
      (.union (.range '[' (Char.ofNat 96)) (.range (Char.ofNat 123) '~')))
  | "space" => some asciiBlanks
  | "upper" => some (.range 'A' 'Z')
  | "word" => some asciiWord
  | "xdigit" => some (.union (.range '0' '9') (.union (.range 'A' 'F') (.range 'a' 'f')))
  | _ => Option.none

/-! ## Properties by name -/

/-- Long names of categories, in lower case and without joints. -/
private def categoryNames : List (String × String) :=
  [("uppercaseletter", "Lu"), ("lowercaseletter", "Ll"), ("titlecaseletter", "Lt"),
   ("modifierletter", "Lm"), ("otherletter", "Lo"), ("nonspacingmark", "Mn"),
   ("spacingmark", "Mc"), ("enclosingmark", "Me"), ("decimalnumber", "Nd"), ("digit", "Nd"),
   ("letternumber", "Nl"), ("othernumber", "No"), ("connectorpunctuation", "Pc"),
   ("dashpunctuation", "Pd"), ("openpunctuation", "Ps"), ("closepunctuation", "Pe"),
   ("initialpunctuation", "Pi"), ("finalpunctuation", "Pf"), ("otherpunctuation", "Po"),
   ("mathsymbol", "Sm"), ("currencysymbol", "Sc"), ("modifiersymbol", "Sk"),
   ("othersymbol", "So"), ("spaceseparator", "Zs"), ("lineseparator", "Zl"),
   ("paragraphseparator", "Zp"), ("control", "Cc"), ("cntrl", "Cc"), ("format", "Cf"),
   ("surrogate", "Cs"), ("privateuse", "Co"), ("unassigned", "Cn")]

/-- Names of classes of categories. -/
private def majorNames : List (String × Char) :=
  [("l", 'L'), ("letter", 'L'), ("m", 'M'), ("mark", 'M'), ("combiningmark", 'M'), ("n", 'N'),
   ("number", 'N'), ("p", 'P'), ("punctuation", 'P'), ("punct", 'P'), ("s", 'S'),
   ("symbol", 'S'), ("z", 'Z'), ("separator", 'Z'), ("c", 'C'), ("other", 'C')]

/-- A name without joints and case, and without `is` in front. -/
def plainName (name : List Char) : String :=
  let cs := (Text.lower name).filter fun c => c != ' ' && c != '_' && c != '-'
  let cs := match cs with
    | 'i' :: 's' :: rest => if rest = ['c'] then cs else rest
    | cs => cs
  String.ofList cs

def ofCategoryName? (name : String) : Option Charset :=
  match name with
  | "any" => some any
  | "ascii" => some (.range (Char.ofNat 0) (Char.ofNat 127))
  | "assigned" => some (.complement (.category .cn))
  | "lc" | "casedletter" =>
    some (.union (.category .lu) (.union (.category .ll) (.category .lt)))
  | name =>
    match majorNames.find? fun p => p.1 == name with
    | some (_, letter) => some (.major letter)
    | Option.none =>
      let short := ((categoryNames.find? fun p => p.1 == name).map Prod.snd).getD
        (match name.toList with
          | [a, b] => String.ofList [a.toUpper, b]
          | _ => "")
      (Text.Category.ofName? short).map .category

def ofWritingSystem? (name : String) : Option Charset :=
  (Text.WritingSystem.ofName? name).map fun _ => .writingSystem name

/-- The set of a property that is given by one name. -/
def ofPropertyName? (name : String) : Option Charset :=
  match name with
  | "alphabetic" | "alpha" => some .alphabetic
  | "lowercase" | "lower" => some .lowercase
  | "uppercase" | "upper" => some .uppercase
  | "whitespace" | "wspace" | "space" => some .blanks
  | "cased" => some (.union .lowercase (.union .uppercase (.category .lt)))
  | "asciihexdigit" | "ahex" => ofAsciiName? "xdigit"
  | name =>
    match Text.Symbol.ofName? name with
    | some _ => some (.symbol name)
    | Option.none => ofCategoryName? name <|> ofWritingSystem? name

/-- The set of a property that is given by its kind and its value. -/
def ofPropertyValue? (kind value : String) : Option Charset :=
  match kind with
  | "generalcategory" | "gc" => ofCategoryName? value
  | "script" | "sc" | "scriptextensions" | "scx" => ofWritingSystem? value
  | _ => Option.none

end Charset

end FormulaSheet.Pattern
