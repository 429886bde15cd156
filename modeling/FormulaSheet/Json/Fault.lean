/-!
What can be wrong with a text in JSON notation, and where.
-/

namespace FormulaSheet.Json

inductive Cause where
  | endInValue
  | endInText
  | endInObject
  | endInList
  | expectedColon
  | expectedCommaOrBrace
  | expectedCommaOrBracket
  | expectedValue
  | expectedWord
  | keyNotText
  | trailingComma
  | trailing
  | invalidEscape
  | invalidNumber
  | numberOutOfRange
  | controlCharacter
  | loneSurrogate
  | endOfEscape
  | missing (field : String)
  | duplicate (field : String)
  /-- A value of another kind than the wanted one. -/
  | wrongKind (found wanted : String)
  | wrongLength (length : Nat) (wanted : String)
  /-- A text that its field does not allow. -/
  | refused (reason : String)
  deriving DecidableEq, Repr

def Cause.message : Cause → String
  | .endInValue => "EOF while parsing a value"
  | .endInText => "EOF while parsing a string"
  | .endInObject => "EOF while parsing an object"
  | .endInList => "EOF while parsing a list"
  | .expectedColon => "expected `:`"
  | .expectedCommaOrBrace => "expected `,` or `\x7d`"
  | .expectedCommaOrBracket => "expected `,` or `]`"
  | .expectedValue => "expected value"
  | .expectedWord => "expected ident"
  | .keyNotText => "key must be a string"
  | .trailingComma => "trailing comma"
  | .trailing => "trailing characters"
  | .invalidEscape => "invalid escape"
  | .invalidNumber => "invalid number"
  | .numberOutOfRange => "number out of range"
  | .controlCharacter => "control character (\\u0000-\\u001F) found while parsing a string"
  | .loneSurrogate => "lone leading surrogate in hex escape"
  | .endOfEscape => "unexpected end of hex escape"
  | .missing field => "missing field `" ++ field ++ "`"
  | .duplicate field => "duplicate field `" ++ field ++ "`"
  | .wrongKind found wanted => "invalid type: " ++ found ++ ", expected " ++ wanted
  | .wrongLength length wanted => "invalid length " ++ toString length ++ ", expected " ++ wanted
  | .refused reason => reason

/-- A cause with what was left to read there. -/
structure Fault where
  cause : Cause
  rest : List Char
  deriving DecidableEq, Repr

/-- The line and the column in bytes at the end of a text. -/
def endOf (cs : List Char) : Nat × Nat :=
  cs.foldl (fun (line, column) c => if c = '\n' then (line + 1, 0) else (line, column + c.utf8Size))
    (1, 0)

/-- The cause with its place in the whole text. -/
def Fault.message (whole : List Char) (f : Fault) : String :=
  let (line, column) := endOf (whole.take (whole.length - f.rest.length))
  f.cause.message ++ " at line " ++ toString line ++ " column " ++ toString column

end FormulaSheet.Json
