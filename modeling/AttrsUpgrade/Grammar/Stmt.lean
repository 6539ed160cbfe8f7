import AttrsUpgrade.Grammar.Expr
import AttrsUpgrade.Tree.Lines
import AttrsUpgrade.Token.Lexer
/-!
# Statements and modules

The productions of the statement grammar, and the three ways to read a text: as a module, as one statement and as one
expression. A text that does not belong to the grammar gives `none`.
-/

namespace AttrsUpgrade.Grammar

open AttrsUpgrade.Parser

section
variable (r : Recur)

/-! ## Imports -/

def dottedName : Parser DottedName := do
  let head ← ident
  let tail ← many r.bound do
    match ← spaced? "." with
    | none => return none
    | some dot => return some ⟨dot, (← ident).text⟩
  return ⟨head.text, tail⟩

/-- `as name`. Only blanks within a line are kept around `as`, and there have to be some. -/
def asName? : Parser (Option AsName) := do
  if ← isNext "as" then
    let before ← simpleGap
    let _ ← bare .symbol
    let after ← simpleGap
    check (!before.isEmpty && !after.isEmpty)
    return some ⟨before ++ "as" ++ after, ← ident⟩
  else return none

/-- A comma; outside parentheses it does not own a comment after it. -/
def comma (parenthesised : Bool) : Parser Comma := do
  let before ← blank
  let _ ← bare .symbol
  return ⟨before, ← if parenthesised then blank else gapBeforeComment⟩

/-- The names of an `import` statement. -/
def importedModules : Nat → Parser (List Alias)
  | 0 => fail
  | n + 1 => do
    let name ← dottedName r
    let asName ← asName?
    if ← isNext "," then
      let c ← comma false
      return ⟨name, asName, some c⟩ :: (← importedModules n)
    else return [⟨name, asName, none⟩]

/-- The names of a `from` import; a comma may follow the last. -/
def importedNames (parenthesised : Bool) : Nat → Parser (List Alias)
  | 0 => fail
  | n + 1 => do
    let name ← ident
    let asName ← asName?
    if ← isNext "," then
      let c ← comma parenthesised
      if ← isNextKind .name then return ⟨⟨name.text, []⟩, asName, some c⟩ :: (← importedNames parenthesised n)
      else return [⟨⟨name.text, []⟩, asName, some c⟩]
    else return [⟨⟨name.text, []⟩, asName, none⟩]

def importNames : Parser Small := do
  let opening ← spaced "import"
  return .importNames opening (← importedModules r (r.bound + 1))

/-- A word and the blanks around it. -/
def simpleWord (text : String) : Parser String := do
  let before ← simpleGap
  let t ← bare .symbol
  check (t.text == text)
  return before ++ text ++ (← simpleGap)

/-- The dots of a relative import. -/
def importDots : Parser String := do
  let dots ← many r.bound do
    if ← isNext "." then return some (← simpleWord ".")
    else if ← isNext "..." then return some (← simpleWord "...")
    else return none
  return dots.foldr (· ++ ·) ""

def imported : Parser Imported := do
  let t ← peek
  if t.is "*" then
    let _ ← bare .symbol
    return .star
  else if t.is "(" then
    let _ ← bare .symbol
    let opening ← blank
    let names ← importedNames true (r.bound + 1)
    let closing ← blank
    let _ ← symbol ")"
    return .names (some ⟨opening, closing⟩) names
  else return .names none (← importedNames false (r.bound + 1))

def importFrom : Parser Small := do
  let opening ← simpleWord "from"
  let dots ← importDots r
  if ← isNextKind .name then
    let source ← dottedName r
    let word ← simpleWord "import"
    return .importFrom ⟨opening, dots, some source, word, ← imported r⟩
  else
    check (!dots.isEmpty)
    let word ← simpleWord "import"
    return .importFrom ⟨opening, dots, none, word, ← imported r⟩

/-! ## Small statements -/

/-- The names of a `global` or `nonlocal` statement. -/
def declaredNames : Nat → Parser (List Declared)
  | 0 => fail
  | n + 1 => do
    let name ← ident
    match ← spaced? "," with
    | some comma => return ⟨name, comma⟩ :: (← declaredNames n)
    | none => return [⟨name, []⟩]

def declare (reach : Reach) (word : String) : Parser Small := do
  let opening ← spaced word
  return .declare reach opening (← declaredNames (r.bound + 1))

def plainWord (kind : PlainKind) (word : String) : Parser Small := return .plain kind [.text (← symbol word)]

def delStmt : Parser Small := do
  let word ← spaced "del"
  return .plain .del [.text word, .expr (← exprList r)]

def returnStmt : Parser Small := do
  let word ← symbol "return"
  if startsElement (← peek) then
    let sep ← gap
    return .plain .return [.text (word ++ sep), .expr (← testListStar r)]
  else return .plain .return [.text word]

def raiseStmt : Parser Small := do
  let word ← symbol "raise"
  if startsTest (← peek) then
    let sep ← gap
    let e ← r.test
    match ← spaced? "from" with
    | some s => return .plain .raise [.text (word ++ sep), .expr e, .text s, .expr (← r.test)]
    | none => return .plain .raise [.text (word ++ sep), .expr e]
  else return .plain .raise [.text word]

def assertStmt : Parser Small := do
  let word ← spaced "assert"
  let e ← r.test
  match ← spaced? "," with
  | some s => return .plain .assert [.text word, .expr e, .text s, .expr (← r.test)]
  | none => return .plain .assert [.text word, .expr e]

/-- The signs of augmented assignments. -/
def augmentedSigns : List String := ["+=", "-=", "*=", "@=", "/=", "%=", "&=", "|=", "^=", "<<=", ">>=", "**=", "//="]

/-- The values after further equals signs: all but the last become targets. -/
def assignRest (first : Expr) (equals : Span) : Nat → Parser (List Target × Expr)
  | 0 => fail
  | n + 1 => do
    let e ← valueExpr r
    match ← spaced? "=" with
    | some equals' =>
      let (ts, value) ← assignRest e equals' n
      return (⟨first, equals⟩ :: ts, value)
    | none => return ([⟨first, equals⟩], e)

def exprStmt : Parser Small := do
  let first ← testListStar r
  match ← spaced? ":" with
  | some mark =>
    let hint ← r.test
    match ← spaced? "=" with
    | some equals => return .annAssign first ⟨mark, hint⟩ (some ⟨equals, ← valueExpr r⟩)
    | none => return .annAssign first ⟨mark, hint⟩ none
  | none =>
    match ← spacedOf? augmentedSigns with
    | some sign =>
      if ← isNext "yield" then return .augAssign first sign (← yieldExpr r)
      else return .augAssign first sign (← testList r)
    | none =>
      match ← spaced? "=" with
      | some equals =>
        let (ts, value) ← assignRest r first equals (r.bound + 1)
        return .assign ts value
      | none => return .expr first

def smallStmt : Parser Small := do
  let t ← peek
  if t.kind != .symbol then exprStmt r
  else if t.text == "pass" then plainWord .pass "pass"
  else if t.text == "break" then plainWord .break "break"
  else if t.text == "continue" then plainWord .continue "continue"
  else if t.text == "del" then delStmt r
  else if t.text == "return" then returnStmt r
  else if t.text == "raise" then raiseStmt r
  else if t.text == "assert" then assertStmt r
  else if t.text == "global" then declare r .global "global"
  else if t.text == "nonlocal" then declare r .nonlocal "nonlocal"
  else if t.text == "import" then importNames r
  else if t.text == "from" then importFrom r
  else if t.text == "yield" then return .expr (← yieldExpr r)
  else exprStmt r

/-- Whether a small statement can begin with the token. -/
def startsSmall (t : Token) : Bool :=
  startsElement t || (t.kind == .symbol && ["pass", "break", "continue", "del", "return", "raise", "assert", "global",
    "nonlocal", "import", "from", "yield"].contains t.text)

/-- The small statements of a line. A semicolon owns the blanks around it, the last one only those before it. -/
def items : Nat → Parser (List Item)
  | 0 => fail
  | n + 1 => do
    let stmt ← smallStmt r
    if ← isNext ";" then
      let semicolon ← symbol ";"
      if startsSmall (← peek) then
        let sep ← gap
        return ⟨stmt, some (semicolon ++ sep)⟩ :: (← items n)
      else return [⟨stmt, some semicolon⟩]
    else return [⟨stmt, none⟩]

def line : Parser Stmt := do
  let leading ← lineStart
  let is ← items r (r.bound + 1)
  return .line ⟨leading, is, ← whole .newline⟩

/-! ## Suites and clauses -/

/-- What a block is indented by. -/
def blockIndent : Parser String := fun ts => match ts with
  | ⟨.indent text, _, _, _, _⟩ :: r => some (text, r)
  | _ => none

/-- The end of a block or text, and the empty lines before it. -/
def endLines (kind : TokenKind) : Parser (List Span) := do
  let lines ← lineStart
  let _ ← whole kind
  return lines

def suite (stmt : Parser Stmt) : Parser Suite := do
  let colon ← symbol ":"
  if ← isNextKind .newline then
    let rest ← whole .newline
    let indent ← blockIndent
    let first ← stmt
    let others ← many r.bound do
      if ← isNextKind .dedent then return none else return some (← stmt)
    return .block (colon ++ rest) indent (first :: others) (← endLines .dedent)
  else
    let sep ← gap
    let is ← items r (r.bound + 1)
    return .inline (colon ++ sep) is (← whole .newline)

variable (stmt : Parser Stmt)

/-- A clause with the empty lines before it. -/
def clause (header : Parser Header) : Parser Clause := do
  let leading ← lineStart
  let h ← header
  return ⟨⟨leading, h⟩, ← suite r stmt⟩

def wordHeader (word : String) : Parser Header := return .word (← symbol word)

def testHeader (word : String) : Parser Header := do
  let opening ← spaced word
  return .test opening (← namedTest r)

/-- A clause that only stands if `word` comes next. -/
def clause? (word : String) (header : Parser Header) : Parser (List Clause) := do
  if ← isNext word then return [← clause r stmt header] else return []

def elseClause : Parser (List Clause) := clause? r stmt "else" (wordHeader "else")

def ifStmt : Parser (List Clause) := do
  let first ← clause r stmt (testHeader r "if")
  let elifs ← many r.bound do
    if ← isNext "elif" then return some (← clause r stmt (testHeader r "elif")) else return none
  return first :: elifs ++ (← elseClause r stmt)

def whileStmt : Parser (List Clause) := do
  let first ← clause r stmt (testHeader r "while")
  return first :: (← elseClause r stmt)

def forHeader (async : Span) : Parser Header := do
  let word ← spaced "for"
  let target ← exprList r
  let sep ← spaced "in"
  return .loop (async ++ word) target sep (← testList r)

def withItems : Nat → Parser (List WithItem)
  | 0 => fail
  | n + 1 => do
    let e ← r.test
    let target ←
      match ← spaced? "as" with
      | some sep => pure (some ⟨sep, ← expr r⟩)
      | none => pure none
    match ← spaced? "," with
    | some comma => return ⟨e, target, comma⟩ :: (← withItems n)
    | none => return [⟨e, target, []⟩]

def withHeader (async : Span) : Parser Header := do
  let word ← spaced "with"
  return .context (async ++ word) (← withItems r (r.bound + 1))

def exceptHeader : Parser Header := do
  let word ← symbol "except"
  if startsTest (← peek) then
    let sep ← gap
    let e ← r.test
    match ← spaced? "as" with
    | some s => return .handler (word ++ sep) e s (← ident)
    | none => return .test (word ++ sep) e
  else return .word word

def Header.isWord : Header → Bool
  | .word _ => true
  | _ => false

def tryStmt : Parser (List Clause) := do
  let first ← clause r stmt (wordHeader "try")
  if ← isNext "finally" then return [first, ← clause r stmt (wordHeader "finally")]
  else
    let handler ← clause r stmt (exceptHeader r)
    let handlers ← many r.bound do
      if ← isNext "except" then return some (← clause r stmt (exceptHeader r)) else return none
    -- Only the last handler may do without an expression.
    check ((handler :: handlers).dropLast.all fun c => !Header.isWord c.head.header)
    let orelse ← elseClause r stmt
    let final ← clause? r stmt "finally" (wordHeader "finally")
    return first :: handler :: handlers ++ orelse ++ final

/-! ## Definitions -/

/-- The dotted name of a decorator as an expression. -/
def dottedExpr : Nat → Expr → Parser Expr
  | 0, e => pure e
  | n + 1, e => do
    match ← spaced? "." with
    | some dot => dottedExpr n (.attribute e dot (← ident))
    | none => return e

def decorator : Parser Decorator := do
  let leading ← lineStart
  let mark ← spaced "@"
  let name ← dottedExpr r.bound (.name (← ident))
  let e ←
    if ← isNext "(" then do
      let (opening, args, closing) ← callArgs r
      pure (.call name opening args closing)
    else pure name
  return ⟨leading, mark, e, ← whole .newline⟩

/-- All decorators; the empty lines before the first are kept apart. -/
def decorators : Parser (List Span × List Decorator) := do
  let ds ← many r.bound do
    if ← isNext "@" then return some (← decorator r) else return none
  match ds with
  | [] => return ([], [])
  | d :: ds => return (d.leading, { d with leading := [] } :: ds)

/-- A function from its `def` on; `opening` is what stands before it on the line. -/
def funcFrom (leading : List Span) (ds : List Decorator) (between : List Span) (opening : Span) : Parser Stmt := do
  let word ← spaced "def"
  let name ← ident
  let lpar ← spaced "("
  let ps ← params r true
  let rpar ← symbol ")"
  let returns ←
    match ← spaced? "->" with
    | some mark => pure (some ⟨mark, ← r.test⟩)
    | none => pure none
  return .funcDef ⟨leading, ds, between, opening ++ word, name, lpar, ps, rpar, returns⟩ (← suite r stmt)

def classArgs? : Parser (Option ClassArgs) := do
  if ← isNext "(" then
    let opening ← spaced "("
    let args ← arguments r (r.bound + 1)
    check (classArgsInOrder args)
    return some ⟨opening, args, ← symbol ")"⟩
  else return none

def classFrom (leading : List Span) (ds : List Decorator) (between : List Span) : Parser Stmt := do
  let word ← spaced "class"
  let name ← ident
  let args ← classArgs? r
  return .classDef ⟨leading, ds, between, word, name, args⟩ (← suite r stmt)

/-- A class or function after its decorators. -/
def decorated : Parser Stmt := do
  let (leading, ds) ← decorators r
  let between ← lineStart
  if ← isNext "class" then classFrom r stmt leading ds between
  else
    let async ← spaced? "async"
    funcFrom r stmt leading ds between (async.getD [])

/-- Statements that begin with `async`: the next word tells which. -/
def asyncStmt : Parser Stmt := do
  let leading ← lineStart
  let async ← spaced "async"
  let t ← peek
  if t.is "for" then
    let h ← forHeader r async
    let body ← suite r stmt
    return .compound (⟨⟨leading, h⟩, body⟩ :: (← elseClause r stmt))
  else if t.is "with" then
    let h ← withHeader r async
    return .compound [⟨⟨leading, h⟩, ← suite r stmt⟩]
  else funcFrom r stmt leading [] [] async

/-- One statement, given the parser for the statements of its blocks. -/
def statement : Parser Stmt := do
  let t ← peek
  if t.is "if" then return .compound (← ifStmt r stmt)
  else if t.is "while" then return .compound (← whileStmt r stmt)
  else if t.is "for" then
    let first ← clause r stmt (forHeader r [])
    return .compound (first :: (← elseClause r stmt))
  else if t.is "try" then return .compound (← tryStmt r stmt)
  else if t.is "with" then return .compound [← clause r stmt (withHeader r [])]
  else if t.is "def" then
    funcFrom r stmt (← lineStart) [] [] []
  else if t.is "class" then
    classFrom r stmt (← lineStart) [] []
  else if t.is "async" then asyncStmt r stmt
  else if t.is "@" then decorated r stmt
  else line r

end

/-- Statements with blocks nested up to `n` deep. -/
def statementUpTo (r : Recur) : Nat → Parser Stmt
  | 0 => fail
  | n + 1 => statement r (statementUpTo r n)

/-! ## Reading texts -/

/-- All statements up to the end of the text, and the empty lines after them. -/
def moduleBody (bound : Nat) : Parser (List Stmt × List Span) := do
  let stmt := statementUpTo (Recur.upTo bound) bound
  let stmts ← many bound do
    if ← isNextKind .finish then return none else return some (← stmt)
  return (stmts, ← endLines .finish)

/-- The text with a newline at its end, and whether it had one. -/
def closeText (cs : List Char) : List Char × Bool :=
  if Text.endsWithNewline cs then (cs, true) else (cs ++ (Text.firstNewline cs).toList, false)

end Grammar

open Grammar

/-- What the first block of a text is indented by, four spaces if there is none. -/
def firstIndent : List Token → String
  | [] => "    "
  | ⟨.indent text, _, _, _, _⟩ :: _ => text
  | _ :: ts => firstIndent ts

/-- Reads a module, numbering its tokens from `base`. The empty lines before the first statement become the header. -/
def Module.parseFrom? (base : Nat) (text : String) : Option Module := do
  let newline := Text.firstNewline text.toList
  let (cs, final) := closeText text.toList
  let ts ← tokenize? newline base cs
  let ((body, footer), _) ← moduleBody ts.length ts
  let m : Module := ⟨[], [], [], firstIndent ts, newline, final, base + ts.length⟩
  match body with
  | [] => return { m with header := if cs = newline.toList then [] else footer }
  | s :: ss => return { m with header := s.leading, body := s.setLeading [] :: ss, footer }

/-- Reads a module. No token has the number 0, which is left to names that are written anew. -/
def Module.parse? (text : String) : Option Module := Module.parseFrom? 1 text

/-- Runs a parser on all of a text that is not part of a module. -/
def runAlone? {α : Type} (cs : List Char) (p : Nat → Parser α) : Option α := do
  let ts ← tokenize? "\n" 0 cs
  let (a, rest) ← p ts.length ts
  let _ ← endLines .finish rest
  return a

/-- Reads one expression. Empty lines may stand before it, blanks and a comment after it. -/
def Expr.parse? (text : String) : Option Expr :=
  runAlone? text.toList fun n => do
    let r := Recur.upTo n
    if ← Parser.isNext "*" then return .operation (← starred r) else testList r

/-- Reads one statement. Empty lines may stand before it and after it. -/
def Stmt.parse? (text : String) : Option Stmt :=
  runAlone? (closeText text.toList).1 fun n => statementUpTo (Recur.upTo n) n

end AttrsUpgrade
