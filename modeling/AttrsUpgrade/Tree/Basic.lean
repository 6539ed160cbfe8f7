import AttrsUpgrade.Text.Span
/-!
# The tree

A Python 3.8 module as a tree in which every piece of text belongs to exactly one node. Blanks, comments and newlines are
kept as spans; `AttrsUpgrade.Tree.Printer` puts them back in order. The indentation of lines is not kept: a block says by how
much it is indented.

Constructs that the upgrade or the name resolution look into have constructors of their own. All others (operators,
conditionals, dictionaries, slices, ...) are an `operation`: text interleaved with subexpressions in source order.
-/

namespace AttrsUpgrade

/-- An identifier where it stands in the source. `site` is the number of its token, so that facts about one occurrence can
be kept outside the tree. -/
structure Name where
  text : String
  site : Nat
deriving DecidableEq, Repr, Inhabited

/-- What stands before an argument's value. -/
inductive ArgKind where
  | positional
  /-- `name =`, with the text of the equals sign and the blanks around it. -/
  | keyword (name : Name) (equals : Span)
  /-- `*` and the blanks after it. -/
  | iterable (star : Span)
  /-- `**` and the blanks after it. -/
  | mapping (star : Span)
deriving DecidableEq, Repr, Inhabited

/-- The bracketed or bare sequences whose elements can be looked at. -/
inductive Display where
  | list
  | tuple
  | set
deriving DecidableEq, Repr

mutual

/-- Expressions. -/
inductive Expr where
  | name (n : Name)
  /-- A number or `...`. -/
  | literal (text : String)
  /-- One string or bytes literal with its quotes, not an f-string. -/
  | string (text : String)
  | fstring (pieces : List Piece)
  /-- Two literals side by side. -/
  | concat (left : Expr) (gap : Span) (right : Expr)
  | paren (opening : Span) (inner : Expr) (closing : Span)
  | attribute (value : Expr) (dot : Span) (attr : Name)
  | call (func : Expr) (opening : Span) (args : List Arg) (closing : Span)
  | subscript (value : Expr) (opening : Span) (index : List Piece) (closing : Span)
  | display (kind : Display) (opening : Span) (elements : List Piece) (closing : Span)
  | lambda (site : Nat) (opening : Span) (params : List Param) (colon : Span) (body : Expr)
  | comprehension (site : Nat) (opening : Span) (element : List Piece) (loop : Loop) (inner : List Loop)
      (closing : Span)
  /-- `target := value`. -/
  | walrus (target : Expr) (sign : Span) (value : Expr)
  | operation (pieces : List Piece)

/-- A stretch of text, or a subexpression. -/
inductive Piece where
  | text (s : Span)
  | expr (e : Expr)

/-- An argument of a call or of a class. A last argument without comma owns the blanks after it. -/
structure Arg where
  kind : ArgKind
  value : Expr
  comma : Option Span
  after : Span

/-- A parameter of a function or lambda. The annotation and the default are empty when absent. -/
inductive Param where
  /-- A bare `*` and the comma after it. -/
  | star (comma : Option Span)
  /-- The `/` after the parameters that are positional only. -/
  | slash (comma : Option Span)
  | named (star : Span) (name : Name) (hint : List Piece) (default : List Piece) (comma : Option Span)

/-- One `for ... in ... if ...` of a comprehension. -/
structure Loop where
  opening : Span
  target : Expr
  sep : Span
  iter : Expr
  conditions : List Piece

end

instance : Inhabited Expr := ⟨.literal ""⟩
instance : Inhabited Piece := ⟨.text []⟩
instance : Inhabited Arg := ⟨⟨.positional, default, none, []⟩⟩

/-- `: expr` or `-> expr`; the mark owns the blanks around it. -/
structure Hint where
  mark : Span
  expr : Expr
deriving Inhabited

/-! ## Imports -/

/-- `.name`, the dot with the blanks around it. -/
structure DotPart where
  dot : Span
  name : String
deriving DecidableEq, Repr

/-- A dotted path such as `a.b.c`. -/
structure DottedName where
  head : String
  tail : List DotPart
deriving DecidableEq, Repr

/-- A comma and the blanks on both sides of it. -/
structure Comma where
  before : Blank
  after : Blank
deriving DecidableEq, Repr

/-- `as name`, with the blanks around `as`. -/
structure AsName where
  sep : String
  name : Name
deriving DecidableEq, Repr

/-- One imported name. -/
structure Alias where
  name : DottedName
  asName : Option AsName
  comma : Option Comma
deriving DecidableEq, Repr

/-- The blanks after the opening and before the closing parenthesis of `from m import (a, b)`. -/
structure Parens where
  opening : Blank
  closing : Blank
deriving DecidableEq, Repr

/-- What a `from` import brings in. -/
inductive Imported where
  | star
  | names (parens : Option Parens) (names : List Alias)
deriving DecidableEq, Repr

/-- `from dots module import ...`. -/
structure FromImport where
  opening : String
  dots : String
  source : Option DottedName
  sep : String
  imported : Imported
deriving DecidableEq, Repr

/-! ## Small statements -/

/-- A target of an assignment and its equals sign. -/
structure Target where
  target : Expr
  equals : Span
deriving Inhabited

/-- `= value` of an annotated assignment. -/
structure Assigned where
  equals : Span
  value : Expr
deriving Inhabited

/-- A name in a `global` or `nonlocal` statement, with the comma after it. -/
structure Declared where
  name : Name
  comma : Span
deriving DecidableEq, Repr

/-- Statements of which only the subexpressions matter. -/
inductive PlainKind where
  | pass
  | break
  | continue
  | del
  | return
  | raise
  | assert
deriving DecidableEq, Repr

/-- Which scope a declaration sends its names to. -/
inductive Reach where
  | global
  | nonlocal
deriving DecidableEq, Repr

/-- Statements that fit on a line beside others. -/
inductive Small where
  | expr (e : Expr)
  | assign (targets : List Target) (value : Expr)
  | annAssign (target : Expr) (hint : Hint) (value : Option Assigned)
  | augAssign (target : Expr) (sign : Span) (value : Expr)
  | importNames (opening : Span) (names : List Alias)
  | importFrom (f : FromImport)
  | declare (reach : Reach) (opening : Span) (names : List Declared)
  | plain (kind : PlainKind) (pieces : List Piece)

/-- A small statement and the semicolon after it, which owns the blanks around it. -/
structure Item where
  stmt : Small
  semicolon : Option Span

/-- Small statements on one line, with the empty lines before it and the comment and newline after it. -/
structure Line where
  leading : List Span
  items : List Item
  trailing : Span

/-! ## Compound statements -/

/-- `as target` of a `with` item. -/
structure AsTarget where
  sep : Span
  target : Expr

/-- An item of a `with` statement. -/
structure WithItem where
  value : Expr
  asTarget : Option AsTarget
  comma : Span

/-- What stands before the colon of a clause. -/
inductive Header where
  /-- `else`, `try`, `finally`, `except`. -/
  | word (text : Span)
  /-- `if`, `elif`, `while`, `except` with an expression. -/
  | test (opening : Span) (e : Expr)
  /-- `except e as name`. -/
  | handler (opening : Span) (e : Expr) (sep : Span) (name : Name)
  /-- `for target in iter`. -/
  | loop (opening : Span) (target : Expr) (sep : Span) (iter : Expr)
  | context (opening : Span) (items : List WithItem)

/-- The first line of a clause, with the empty lines before it. -/
structure ClauseHead where
  leading : List Span
  header : Header

/-- A decorator. Its trailing text ends with the newline. -/
structure Decorator where
  leading : List Span
  mark : Span
  expr : Expr
  trailing : Span
deriving Inhabited

/-- A function definition up to its colon. -/
structure FuncHead where
  leading : List Span
  decorators : List Decorator
  between : List Span
  opening : Span
  name : Name
  lpar : Span
  params : List Param
  rpar : Span
  returns : Option Hint

/-- The parenthesised arguments of a class. -/
structure ClassArgs where
  opening : Span
  args : List Arg
  closing : Span

/-- A class definition up to its colon. -/
structure ClassHead where
  leading : List Span
  decorators : List Decorator
  between : List Span
  opening : Span
  name : Name
  args : Option ClassArgs

mutual

/-- Statements. -/
inductive Stmt where
  | line (l : Line)
  /-- `if`, `while`, `for`, `try` and `with` with all their clauses. -/
  | compound (clauses : List Clause)
  | funcDef (head : FuncHead) (body : Suite)
  | classDef (head : ClassHead) (body : Suite)

/-- One header with its suite. -/
structure Clause where
  head : ClauseHead
  body : Suite

/-- What follows a header: statements on the same line, or a block that is indented by `indent` more than the header. `opening`
holds the colon and, for a block, the rest of the line. -/
inductive Suite where
  | inline (opening : Span) (items : List Item) (trailing : Span)
  | block (opening : Span) (indent : String) (body : List Stmt) (footer : List Span)

end

instance : Inhabited Stmt := ⟨.line ⟨[], [], []⟩⟩

/-- A module. `indent` is what its blocks are indented by, `newline` the newline that new lines are ended with, `finalNewline`
tells whether the text ended with one, and `sites` is the first number that none of its tokens has. -/
structure Module where
  header : List Span
  body : List Stmt
  footer : List Span
  indent : String
  newline : String
  finalNewline : Bool
  sites : Nat

end AttrsUpgrade
