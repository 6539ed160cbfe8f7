import AttrsUpgrade.Text.Span
/-!
# Tokens

A token carries what stands before it: blanks and comments, and the empty lines before the first token of a line. The
indentation of a line is not kept, for it follows from the blocks around the line.
-/

namespace AttrsUpgrade

/-- What a token is. A `symbol` is an operator, a bracket or a reserved word. -/
inductive TokenKind where
  | name
  | number
  | string
  /-- The prefix and quote that begin an f-string, its literal text, and the quote that ends it. -/
  | formatOpen
  | formatText
  | formatClose
  | symbol
  | newline
  /-- The next token begins a block that is indented by this text more than the one around it. -/
  | indent (text : String)
  | dedent
  | finish
deriving DecidableEq, Repr

structure Token where
  kind : TokenKind
  /-- The blanks between the token before and this one; none for the first token of a line. -/
  lead : Blank
  text : String
  /-- The number of the token in its text. -/
  site : Nat
  /-- For the first token of a line, the empty lines before it; for the end of a block, those that still belong to it. -/
  lines : List Span
deriving DecidableEq, Repr

/-- The words that are no names. -/
def reservedWords : List String :=
  ["False", "None", "True", "and", "as", "assert", "async", "await", "break", "class", "continue", "def", "del", "elif",
    "else", "except", "finally", "for", "from", "global", "if", "import", "in", "is", "lambda", "nonlocal", "not", "or",
    "pass", "raise", "return", "try", "while", "with", "yield"]

end AttrsUpgrade
