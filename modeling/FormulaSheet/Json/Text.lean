import FormulaSheet.Text.Table

/-!
Texts in JSON notation: between quotes, with quotes, backslashes and control characters escaped.
-/

namespace FormulaSheet.Json

/-- A digit of base sixteen. -/
def hexDigit (n : Nat) : Char := "0123456789abcdef".toList.getD n '0'

/-- A character as it is written in a text. -/
def escaped (c : Char) : List Char :=
  match c with
  | '"' => ['\\', '"']
  | '\\' => ['\\', '\\']
  | '\n' => ['\\', 'n']
  | '\r' => ['\\', 'r']
  | '\t' => ['\\', 't']
  | c =>
    if c.toNat = 8 then ['\\', 'b']
    else if c.toNat = 12 then ['\\', 'f']
    else if c.toNat < 32 then
      ['\\', 'u', '0', '0', hexDigit (c.toNat / 16), hexDigit (c.toNat % 16)]
    else [c]

/-- A text between its quotes. -/
def quoted (text : String) : List Char := '"' :: text.toList.flatMap escaped ++ ['"']

/-- An object of texts, with one field on each line. -/
def object (fields : List (String × String)) : List Char :=
  let field := fun (f : String × String) => "\n  ".toList ++ quoted f.1 ++ ": ".toList ++ quoted f.2
  if fields.isEmpty then ['\x7b', '\x7d']
  else '\x7b' :: List.intercalate [','] (fields.map field) ++ ['\n', '\x7d']

end FormulaSheet.Json
