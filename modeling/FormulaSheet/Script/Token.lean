/-!
Tokens of the script language: constants, names, keywords and marks. Words and marks that other
languages use are reserved, so that they cannot be names.
-/

namespace FormulaSheet.Script

inductive Token where
  | int (n : Int)
  | float (x : Float)
  | char (c : Char)
  | text (s : String)
  /-- Text of a template before an embedded block. -/
  | piece (s : String)
  | name (s : String)
  | keyword (s : String)
  | reserved (s : String)
  | mark (s : String)
  deriving BEq

namespace Token

def keywords : List String :=
  ["true", "false", "let", "const", "if", "else", "switch", "do", "while", "until", "loop", "for",
   "in", "continue", "break", "return", "throw", "try", "catch", "import", "export", "as",
   "global", "private", "fn"]

def reservedWords : List String :=
  ["var", "static", "is", "begin", "end", "shared", "each", "then", "goto", "unless", "exit",
   "match", "case", "public", "protected", "new", "use", "with", "module", "package", "super",
   "spawn", "thread", "go", "sync", "async", "await", "yield", "default", "void", "null", "nil",
   "print", "debug", "type_of", "eval", "Fn", "call", "curry", "is_shared", "is_def_fn",
   "is_def_var", "this"]

/-- Reserved words that name functions, which may be called. -/
def functionWords : List String :=
  ["print", "debug", "type_of", "Fn", "call", "curry", "is_shared", "is_def_fn", "is_def_var",
   "exit"]

/-- Reserved words that name methods. -/
def methodWords : List String := ["call", "curry", "is_shared", "type_of", "exit"]

/-- Marks of the language, the longer ones first. -/
def marks : List String :=
  ["..=", "**=", "<<=", ">>=", "..", "?.", "??", "?[", "::", "+=", "-=", "**", "*=", "/=", "%=",
   "&=", "&&", "|=", "||", "^=", "<=", "<<", "=>", "==", "!=", ">=", ">>", "#\x7b", "\x7b",
   "\x7d", "(", ")", "[", "]", ";", ",", ".", ":", "+", "-", "*", "/", "%", "&", "|", "^", "<",
   "=", "!", ">"]

/-- Marks that only other languages use, the longer ones first. -/
def reservedMarks : List String :=
  ["===", "!==", "...", "::<", "->", "<-", ":=", ":;", "(*", "*)", "#!", "++", "--", "<|", "|>",
   "~", "#", "@", "$", "?", "\\"]

/-- The token of a word. -/
def ofWord (w : String) : Token :=
  if keywords.contains w then .keyword w
  else if reservedWords.contains w then .reserved w
  else .name w

end Token

end FormulaSheet.Script
