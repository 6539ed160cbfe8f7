import AttrsUpgrade.Grammar.Parser
import AttrsUpgrade.Tree.ArgOrder
import AttrsUpgrade.Token.Lexeme
/-!
# Expressions

The productions of the expression grammar. Nested expressions are reached through a `Recur`, a bundle of the parsers that a
production may call again after it has taken a token; `Recur.upTo n` ties the knot for texts of at most `n` tokens.

Every parser here expects the blanks before its first token to have been taken already.
-/

namespace AttrsUpgrade.Grammar

open AttrsUpgrade.Parser

/-- The parsers that productions call for nested expressions. -/
structure Recur where
  /-- A bound on the repetitions of any loop. -/
  bound : Nat
  test : Parser Expr
  testNoCond : Parser Expr
  notTest : Parser Expr
  factor : Parser Expr
  /-- A replacement field of an f-string. -/
  field : Parser (List Piece)

/-! ## First tokens -/

/-- Whether an operand can begin with the token. -/
def startsExpr (t : Token) : Bool :=
  match t.kind with
  | .name | .number | .string | .formatOpen => true
  | .symbol => ["(", "[", "\x7b", "+", "-", "~", "await", "...", "None", "True", "False"].contains t.text
  | _ => false

/-- Whether a full expression can begin with the token. -/
def startsTest (t : Token) : Bool := startsExpr t || t.is "not" || t.is "lambda"

/-- Whether an element of a list can begin with the token. -/
def startsElement (t : Token) : Bool := startsTest t || t.is "*"

/-! ## Sequences of pieces -/

/-- One part standing alone is that part; otherwise an operation. -/
def operationOf (first : Expr) (rest : List (List Piece)) : Expr :=
  match rest with
  | [] => first
  | _ => .operation (.expr first :: rest.flatten)

/-- Operands joined by signs. -/
def chain (bound : Nat) (operand : Parser Expr) (sign : Parser (Option Span)) : Parser Expr := do
  let first ← operand
  let rest ← many bound do
    match ← sign with
    | none => return none
    | some s => return some [.text s, .expr (← operand)]
  return operationOf first rest

/-- Further elements, each after a comma, and perhaps a comma after the last, which does not own the blanks after it. -/
def commaTail (starts : Token → Bool) (element : Parser (List Piece)) : Nat → Parser (List Piece)
  | 0 => pure []
  | n + 1 => do
    if ← isNext "," then
      let comma ← symbol ","
      if starts (← peek) then
        let sep ← gap
        let ps ← element
        return .text (comma ++ sep) :: ps ++ (← commaTail starts element n)
      else return [.text comma]
    else return []

/-- Elements with commas between them and perhaps after the last; tells whether there was a comma. -/
def commaList (bound : Nat) (starts : Token → Bool) (element : Parser (List Piece)) : Parser (List Piece × Bool) := do
  let first ← element
  let rest ← commaTail starts element bound
  return (first ++ rest, !rest.isEmpty)

/-- The elements of an unbracketed list as one expression: a tuple if there was a comma. -/
def tupleOf (pieces : List Piece) (comma : Bool) : Expr :=
  match comma, pieces with
  | false, [.expr e] => e
  | false, ps => .operation ps
  | true, ps => .display .tuple [] ps []

/-- A parser's expression as a single piece. -/
def one (p : Parser Expr) : Parser (List Piece) := return [.expr (← p)]

/-! ## Productions -/

section
variable (r : Recur)

/-! ### Operators -/

def term : Parser Expr := chain r.bound r.factor (spacedOf? ["*", "@", "/", "%", "//"])

def arithExpr : Parser Expr := chain r.bound (term r) (spacedOf? ["+", "-"])

def shiftExpr : Parser Expr := chain r.bound (arithExpr r) (spacedOf? ["<<", ">>"])

def andExpr : Parser Expr := chain r.bound (shiftExpr r) (spacedOf? ["&"])

def xorExpr : Parser Expr := chain r.bound (andExpr r) (spacedOf? ["^"])

/-- An operand: everything that binds tighter than comparisons. -/
def expr : Parser Expr := chain r.bound (xorExpr r) (spacedOf? ["|"])

/-- A comparison operator, of one word or two. -/
def comparisonSign? : Parser (Option Span) := do
  match ← spacedOf? ["<", ">", "==", ">=", "<=", "!=", "in"] with
  | some s => return some s
  | none =>
    match ← spaced? "not" with
    | some s => return some (s ++ (← spaced "in"))
    | none =>
      match ← spaced? "is" with
      | some s => return some (s ++ ((← spaced? "not").getD []))
      | none => return none

def comparison : Parser Expr := chain r.bound (expr r) comparisonSign?

def notTest : Parser Expr := do
  match ← spaced? "not" with
  | some s => return .operation [.text s, .expr (← r.notTest)]
  | none => comparison r

def andTest : Parser Expr := chain r.bound (notTest r) (spacedOf? ["and"])

def orTest : Parser Expr := chain r.bound (andTest r) (spacedOf? ["or"])

/-- `* e` as pieces. -/
def starred : Parser (List Piece) := do
  let star ← spaced "*"
  return [.text star, .expr (← expr r)]

/-- A full expression or `* e`. -/
def testOrStar : Parser (List Piece) := do
  if ← isNext "*" then starred r else one r.test

/-- An operand or `* e`. -/
def exprOrStar : Parser (List Piece) := do
  if ← isNext "*" then starred r else one (expr r)

/-- `test` or `test := test`. -/
def namedTest : Parser Expr := do
  let e ← r.test
  match ← spaced? ":=" with
  | some sign => return .walrus e sign (← r.test)
  | none => return e

def namedOrStar : Parser (List Piece) := do
  if ← isNext "*" then starred r else one (namedTest r)

/-- Targets of `for` and `del`. -/
def exprList : Parser Expr := do
  let (ps, comma) ← commaList r.bound (fun t => startsExpr t || t.is "*") (exprOrStar r)
  return tupleOf ps comma

def testList : Parser Expr := do
  let (ps, comma) ← commaList r.bound startsTest (one r.test)
  return tupleOf ps comma

def testListStar : Parser Expr := do
  let (ps, comma) ← commaList r.bound startsElement (testOrStar r)
  return tupleOf ps comma

def yieldExpr : Parser Expr := do
  let word ← symbol "yield"
  let t ← peek
  if t.is "from" then
    let sep ← gap
    let sep' ← spaced "from"
    return .operation [.text (word ++ sep ++ sep'), .expr (← r.test)]
  else if startsElement t then
    let sep ← gap
    return .operation [.text (word ++ sep), .expr (← testListStar r)]
  else return .operation [.text word]

/-- `yield ...` or a list of expressions. -/
def valueExpr : Parser Expr := do
  if ← isNext "yield" then yieldExpr r else testListStar r

/-! ### Comprehensions -/

/-- Whether a comprehension's `for` comes next. -/
def atLoop : Parser Bool := return (← isNext "for") || (← isNext "async")

/-- The word `async` before a `for`, which stands on the same line. -/
def asyncWord : Parser Span := do
  if ← isNext "async" then
    let word ← symbol "async"
    check (← peek).lead.isSimple
    return word
  else return []

/-- One `for ... in ... if ...`, with the blanks before it, and the number of its `for`. -/
def loop : Parser (Nat × Loop) := do
  let async ← asyncWord
  let site := (← peek).site
  let word ← spaced "for"
  let target ← exprList r
  let sep ← spaced "in"
  let iter ← orTest r
  let conditions ← many r.bound do
    match ← spaced? "if" with
    | none => return none
    | some s => return some [.text s, .expr (← r.testNoCond)]
  return (site, ⟨async ++ word, target, sep, iter, conditions.flatten⟩)

/-- The loops of a comprehension around an element that has been read. -/
def comprehension (opening : Span) (element : List Piece) (closing : Parser Span) : Parser Expr := do
  let (site, first) ← loop r
  let inner ← many r.bound do
    if ← atLoop then return some (← loop r).2 else return none
  return .comprehension site opening element first inner (← closing)

/-! ### Parameters -/

/-- How far a parameter list has come. -/
inductive ParamStage where
  | start
  | plain
  | slash
  | star
  | finished
deriving DecidableEq, Repr

/-- What has been read of a parameter list. -/
structure ParamState where
  stage : ParamStage
  /-- A parameter with default has been read before any star. -/
  defaults : Bool
  /-- A bare star still waits for a named parameter. -/
  pending : Bool

/-- `: annotation` when annotations are allowed. -/
def paramHint (annotated : Bool) : Parser (List Piece) := do
  if annotated then
    match ← spaced? ":" with
    | some s => return [.text s, .expr (← r.test)]
    | none => return []
  else return []

def paramDefault : Parser (List Piece) := do
  match ← spaced? "=" with
  | some s => return [.text s, .expr (← r.test)]
  | none => return []

/-- The comma after a parameter, if there is one. -/
def paramComma : Parser (Option Span) := spaced? ","

/-- One parameter and the comma after it. -/
def param (annotated : Bool) (s : ParamState) : Parser (Param × ParamState) := do
  let t ← peek
  if t.kind == .name then
    check (s.stage != .finished)
    let name ← ident
    let hint ← paramHint r annotated
    let value ← paramDefault r
    let comma ← paramComma
    let early := s.stage != .star
    check (!(early && s.defaults && value.isEmpty))
    return (.named [] name hint value comma,
      { s with stage := if s.stage == .start then .plain else s.stage,
               defaults := s.defaults || (early && !value.isEmpty), pending := false })
  else if t.is "/" then
    check (s.stage == .plain)
    let _ ← bare .symbol
    return (.slash (← paramComma), { s with stage := .slash })
  else if t.is "*" then
    check (s.stage == .start || s.stage == .plain || s.stage == .slash)
    let star ← bare .symbol
    if (← peek).kind == .name then
      let sep ← gap
      let name ← ident
      let hint ← paramHint r annotated
      return (.named (.text star.text :: sep) name hint [] (← paramComma), { s with stage := .star })
    else return (.star (← paramComma), { s with stage := .star, pending := true })
  else
    check (s.stage != .finished && !s.pending)
    let star ← spaced "**"
    let name ← ident
    let hint ← paramHint r annotated
    return (.named star name hint [] (← paramComma), { s with stage := .finished })

/-- Whether a parameter can begin with the token. -/
def startsParam (t : Token) : Bool := t.kind == .name || t.is "*" || t.is "**" || t.is "/"

/-- Whether a parameter read with its comma was followed by one, so that another may follow. -/
def Param.hasComma : Param → Bool
  | .star comma => comma.isSome
  | .slash comma => comma.isSome
  | .named _ _ _ _ comma => comma.isSome

/-- Parameters up to the token that closes them. -/
def paramsFrom (annotated : Bool) (s : ParamState) : Nat → Parser (List Param)
  | 0 => fail
  | n + 1 => do
    if startsParam (← peek) then
      let (p, s) ← param r annotated s
      if Param.hasComma p then return p :: (← paramsFrom annotated s n)
      else
        check (!s.pending)
        return [p]
    else
      check (!s.pending)
      return []

/-- Whether parameters end with a `/` that no comma follows. -/
def endsWithSlash (ps : List Param) : Bool :=
  match ps.getLast? with
  | some (.slash none) => true
  | _ => false

/-- Parameters. The blanks after a `/` that ends them are dropped. -/
def params (annotated : Bool) : Parser (List Param) := do
  let ps ← paramsFrom r annotated ⟨.start, false, false⟩ (r.bound + 1)
  if endsWithSlash ps then discard blank
  return ps

/-- A lambda whose body is read by `body`. -/
def lambda (body : Parser Expr) : Parser Expr := do
  let site := (← peek).site
  let word ← spaced "lambda"
  let ps ← params r false
  let colon ← spaced ":"
  return .lambda site word ps colon (← body)

/-! ### Arguments -/

/-- An argument without its comma. -/
def argument : Parser (ArgKind × Expr) := do
  let t ← peek
  if t.is "**" then
    let star ← spaced "**"
    return (.mapping star, ← r.test)
  else if t.is "*" then
    let star ← spaced "*"
    return (.iterable star, ← r.test)
  else
    let e ← r.test
    if ← atLoop then return (.positional, ← comprehension r [] [.expr e] (pure []))
    else
      match ← spaced? ":=" with
      | some sign => return (.positional, .walrus e sign (← r.test))
      | none =>
        match e, ← spaced? "=" with
        | .name n, some equals => return (.keyword n equals, ← r.test)
        | _, some _ => fail
        | e, none => return (.positional, e)

/-- Arguments up to, and not including, the closing parenthesis. -/
def arguments : Nat → Parser (List Arg)
  | 0 => fail
  | n + 1 => do
    if ← isNext ")" then return []
    else
      let (kind, value) ← argument r
      match ← spaced? "," with
      | some comma => return ⟨kind, value, some comma, []⟩ :: (← arguments n)
      | none => return [⟨kind, value, none, ← gap⟩]

/-- Parenthesised arguments of a call. -/
def callArgs : Parser (Span × List Arg × Span) := do
  let opening ← spaced "("
  let args ← arguments r (r.bound + 1)
  check (checkArgs args).isOk
  return (opening, args, ← symbol ")")

/-! ### Subscripts -/

/-- `: test`, the expression left out or not. -/
def sliceBound : Parser (List Piece) := do
  let colon ← spaced ":"
  if startsTest (← peek) then return [.text colon, .expr (← r.test)] else return [.text colon]

/-- An index or a slice. -/
def slice : Parser (List Piece) := do
  let lower ← if startsTest (← peek) then one r.test else pure []
  if ← isNext ":" then
    let upper ← sliceBound r
    let step ← if ← isNext ":" then sliceBound r else pure []
    return lower ++ upper ++ step
  else
    check (!lower.isEmpty)
    return lower

def subscript (value : Expr) : Parser Expr := do
  let opening ← spaced "["
  let (ps, _) ← commaList r.bound (fun t => startsTest t || t.is ":") (slice r)
  return .subscript value opening ps (← symbol "]")

/-! ### Strings -/

/-- Literal text or a replacement field of an f-string, if one comes next. -/
def formatPart? : Parser (Option (List Piece)) := do
  let t ← peek
  if t.kind == .formatText then return some [.text (← whole .formatText)]
  else if t.is "\x7b" then return some (← r.field)
  else return none

/-- The conversion of a replacement field, such as `!r`. The blanks before its letter and after it are dropped. -/
def conversion : Parser Span := do
  if ← isNext "!" then
    let mark ← symbol "!"
    let _ ← blank
    let name ← ident
    check (["s", "r", "a"].contains name.text)
    let _ ← blank
    return mark ++ [.text name.text]
  else return []

/-- The format part of a replacement field. -/
def formatSpec : Parser (List Piece) := do
  if ← isNext ":" then
    let colon ← symbol ":"
    let parts ← many r.bound (formatPart? r)
    return .text colon :: parts.flatten
  else return []

/-- Elements of a parenthesised list, or a comprehension. -/
def elements : Parser Expr := do
  let first ← namedOrStar r
  if ← atLoop then comprehension r [] first (pure [])
  else
    let rest ← commaTail startsElement (namedOrStar r) r.bound
    return tupleOf (first ++ rest) (!rest.isEmpty)

/-- A replacement field with its braces. -/
def field : Parser (List Piece) := do
  let opening ← spaced "\x7b"
  let e ← if ← isNext "yield" then yieldExpr r else elements r
  let equals ← if ← isNext "=" then spaced "=" else pure []
  let conv ← conversion
  let spec ← formatSpec r
  let closing ← symbol "\x7d"
  return [.text opening, .expr e, .text (equals ++ conv)] ++ spec ++ [.text closing]

/-- Whether a literal's prefix makes it bytes. -/
def isBytesLiteral (text : String) : Bool :=
  (text.toList.takeWhile fun c => c != '\'' && c != '"').any fun c => c == 'b' || c == 'B'

/-- One string literal or f-string; tells whether it is bytes. -/
def stringPart : Parser (Expr × Bool) := do
  if ← isNextKind .string then
    let t ← bare .string
    return (.string t.text, isBytesLiteral t.text)
  else
    let opening ← bare .formatOpen
    let parts ← many r.bound (formatPart? r)
    let closing ← whole .formatClose
    return (.fstring (.text opening.text :: parts.flatten ++ [.text closing]), false)

/-- Literals standing side by side, all of the same type. -/
def strings : Nat → Parser (Expr × Bool)
  | 0 => fail
  | n + 1 => do
    let (left, bytes) ← stringPart r
    let t ← peek
    if t.kind == .string || t.kind == .formatOpen then
      let sep ← gap
      let (right, bytes') ← strings n
      check (bytes == bytes')
      return (.concat left sep right, bytes)
    else return (left, bytes)

/-! ### Atoms -/

def parens : Parser Expr := do
  let opening ← spaced "("
  let t ← peek
  let inner ←
    if t.is ")" then pure (Expr.display .tuple [] [] [])
    else if t.is "yield" then yieldExpr r
    else elements r
  return .paren opening inner (← symbol ")")

def brackets : Parser Expr := do
  let opening ← spaced "["
  if ← isNext "]" then return .display .list opening [] (← symbol "]")
  else
    let first ← namedOrStar r
    if ← atLoop then comprehension r opening first (symbol "]")
    else
      let rest ← commaTail startsElement (namedOrStar r) r.bound
      return .display .list opening (first ++ rest) (← symbol "]")

/-- `key : value` or `** mapping`. -/
def dictEntry : Parser (List Piece) := do
  match ← spaced? "**" with
  | some star => return [.text star, .expr (← expr r)]
  | none =>
    let key ← r.test
    let colon ← spaced ":"
    return [.expr key, .text colon, .expr (← r.test)]

/-- The rest of a dictionary after its first entry. -/
def dictRest (opening : Span) (first : List Piece) : Parser Expr := do
  let rest ← commaTail (fun t => startsTest t || t.is "**") (dictEntry r) r.bound
  return .operation (.text opening :: first ++ rest ++ [.text (← symbol "\x7d")])

/-- The rest of a set after its first element. -/
def setRest (opening : Span) (first : List Piece) : Parser Expr := do
  let rest ← commaTail startsElement (testOrStar r) r.bound
  return .display .set opening (first ++ rest) (← symbol "\x7d")

def braces : Parser Expr := do
  let opening ← spaced "\x7b"
  let t ← peek
  if t.is "\x7d" then return .operation [.text (opening ++ (← symbol "\x7d"))]
  else if t.is "**" then dictRest r opening (← dictEntry r)
  else if t.is "*" then
    let first ← starred r
    if ← atLoop then comprehension r opening first (symbol "\x7d") else setRest r opening first
  else
    let e ← r.test
    match ← spaced? ":" with
    | some colon =>
      let entry := [.expr e, .text colon, .expr (← r.test)]
      if ← atLoop then comprehension r opening entry (symbol "\x7d") else dictRest r opening entry
    | none =>
      if ← atLoop then comprehension r opening [.expr e] (symbol "\x7d") else setRest r opening [.expr e]

/-- A word of the language that is used like a name. -/
def constant : Parser Expr := do
  let t ← bare .symbol
  check (["None", "True", "False"].contains t.text)
  return .name ⟨t.text, t.site⟩

def atom : Parser Expr := do
  let t ← peek
  match t.kind with
  | .name => return .name (← ident)
  | .number => return .literal (← bare .number).text
  | .string | .formatOpen => return (← strings r (r.bound + 1)).1
  | .symbol =>
    if t.text == "(" then parens r
    else if t.text == "[" then brackets r
    else if t.text == "\x7b" then braces r
    else if t.text == "..." then return .literal (← bare .symbol).text
    else constant
  | _ => fail

/-- Calls, subscripts and attributes after an atom. -/
def trailers : Nat → Expr → Parser Expr
  | 0, e => pure e
  | n + 1, e => do
    let t ← peek
    if t.is "(" then
      let (opening, args, closing) ← callArgs r
      trailers n (.call e opening args closing)
    else if t.is "[" then trailers n (← subscript r e)
    else if t.is "." then
      let dot ← spaced "."
      trailers n (.attribute e dot (← ident))
    else return e

def atomExpr : Parser Expr := do trailers r r.bound (← atom r)

def awaitExpr : Parser Expr := do
  match ← spaced? "await" with
  | some word => return .operation [.text word, .expr (← atomExpr r)]
  | none => atomExpr r

def power : Parser Expr := do
  let base ← awaitExpr r
  match ← spaced? "**" with
  | some sign => return .operation [.expr base, .text sign, .expr (← r.factor)]
  | none => return base

def factor : Parser Expr := do
  match ← spacedOf? ["+", "-", "~"] with
  | some sign => return .operation [.text sign, .expr (← r.factor)]
  | none => power r

/-! ### Full expressions -/

def test : Parser Expr := do
  if ← isNext "lambda" then lambda r r.test
  else
    let e ← orTest r
    match ← spaced? "if" with
    | none => return e
    | some s =>
      let cond ← orTest r
      let s' ← spaced "else"
      return .operation [.expr e, .text s, .expr cond, .text s', .expr (← r.test)]

def testNoCond : Parser Expr := do
  if ← isNext "lambda" then lambda r r.testNoCond else orTest r

end

/-- The productions, nested up to `n` deep. Every nesting takes a token, so a text of `n` tokens never runs out. -/
def Recur.upTo : Nat → Recur
  | 0 => ⟨0, fail, fail, fail, fail, fail⟩
  | n + 1 =>
    let r := Recur.upTo n
    ⟨n + 1, Grammar.test r, Grammar.testNoCond r, Grammar.notTest r, Grammar.factor r, Grammar.field r⟩

end AttrsUpgrade.Grammar
