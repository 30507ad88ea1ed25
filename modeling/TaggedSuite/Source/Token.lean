/-!
# Tokens of a test module
-/
namespace TaggedSuite.Source

structure Literal where
  /-- The literal denotes bytes. -/
  isBytes : Bool
  /-- Backslashes stand for themselves. -/
  isRaw : Bool
  /-- The literal holds expressions between braces. -/
  isFormatted : Bool
  /-- The characters between the quotes. -/
  body : List Char
  deriving DecidableEq, Repr

/-- The kinds of tokens. A keyword is a name here; the grammar tells it apart. -/
inductive TokenKind where
  | name (text : String)
  | number (isImaginary : Bool)
  | literal (l : Literal)
  | operator (text : String)
  | lineEnd
  | indent
  | dedent
  deriving DecidableEq, Repr

structure Token where
  kind : TokenKind
  line : Nat
  deriving DecidableEq, Repr

/-- The names that cannot name anything. -/
def keywords : List String :=
  ["False", "None", "True", "and", "as", "assert", "async", "await", "break", "class", "continue",
    "def", "del", "elif", "else", "except", "finally", "for", "from", "global", "if", "import",
    "in", "is", "lambda", "nonlocal", "not", "or", "pass", "raise", "return", "try", "while",
    "with", "yield"]

/-- The operators and delimiters, longer ones before their beginnings. -/
def operators : List String :=
  ["...", "**=", "//=", ">>=", "<<=", "!=", "%=", "&=", "**", "*=", "+=", "-=", "->", "//", "/=",
    ":=", "<<", "<=", "==", ">=", ">>", "@=", "^=", "|=", "%", "&", "(", ")", "*", "+", ",", "-",
    ".", "/", ":", ";", "<", "=", ">", "@", "[", "]", "^", "\x7b", "|", "\x7d", "~"]

end TaggedSuite.Source
