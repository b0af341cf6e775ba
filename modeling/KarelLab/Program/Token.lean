namespace KarelLab.Program

inductive TokenKind
  | name
  | keyword
  | number
  | text
  | mark
  | newline
  | indent
  | dedent
  | finish
  deriving Repr, DecidableEq, Inhabited

/-- A token: its kind, the characters that it stands for, the line where it starts and the number
of brackets that are open behind it. -/
structure Token where
  kind : TokenKind
  text : String
  line : Nat
  depth : Nat
  deriving Repr, DecidableEq, Inhabited

def keywords : List String :=
  ["False", "None", "True", "and", "as", "assert", "async", "await", "break", "class", "continue",
    "def", "del", "elif", "else", "except", "finally", "for", "from", "global", "if", "import",
    "in", "is", "lambda", "nonlocal", "not", "or", "pass", "raise", "return", "try", "while",
    "with", "yield"]

def softKeywords : List String := ["_", "case", "match"]

def longMarks : List String := ["**=", "//=", "<<=", ">>=", "..."]

def shortMarks : List String :=
  ["!=", "%=", "&=", "**", "*=", "+=", "-=", "->", "//", "/=", ":=", "<<", "<=", "<>", "==", ">=",
    ">>", "@=", "^=", "|="]

def maxBrackets : Nat := 200

def maxIndents : Nat := 100

end KarelLab.Program
