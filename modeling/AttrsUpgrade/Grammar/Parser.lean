import AttrsUpgrade.Token.Basic
import AttrsUpgrade.Tree.Basic
/-!
# Parsers over tokens

A parser takes tokens from the front and never looks further ahead than one. The basic parsers return the text that they
take, blanks included, so that the tree can keep it.
-/

namespace AttrsUpgrade

abbrev Parser (α : Type) := StateT (List Token) Option α

/-- Whether the token is the operator, bracket or reserved word `text`. -/
def Token.is (t : Token) (text : String) : Bool := t.kind == .symbol && t.text == text

namespace Parser

def fail {α : Type} : Parser α := fun _ => none

def check (b : Bool) : Parser Unit := if b then pure () else fail

/-- The next token, left where it is. -/
def peek : Parser Token := fun ts => match ts with
  | [] => none
  | t :: r => some (t, t :: r)

/-- The blanks before the next token. -/
def blank : Parser Blank := fun ts => match ts with
  | [] => none
  | t :: r => some (t.lead, { t with lead := .nothing } :: r)

/-- The blanks before the next token as a span. -/
def gap : Parser Span := return (← blank).span

/-- The blanks before the next token, up to a comment, which is left. -/
def gapBeforeComment : Parser Blank := fun ts => match ts with
  | [] => none
  | t :: r => some (.simple t.lead.beginning, { t with lead := t.lead.afterBeginning } :: r)

/-- The blanks before the next token, up to a comment or newline; these are dropped. -/
def simpleGap : Parser String := return (← blank).beginning

/-- The next token of the given kind, whose blanks have been taken. -/
def bare (kind : TokenKind) : Parser Token := fun ts => match ts with
  | [] => none
  | t :: r => if t.kind = kind ∧ t.lead = .nothing then some (t, r) else none

/-- The next token of the given kind with the blanks before it. -/
def whole (kind : TokenKind) : Parser Span := fun ts => match ts with
  | [] => none
  | t :: r => if t.kind = kind then some (t.lead.span ++ [.text t.text], r) else none

def isNext (text : String) : Parser Bool := return (← peek).is text

def isNextKind (kind : TokenKind) : Parser Bool := return (← peek).kind == kind

/-- The symbol `text` with the blanks before it. -/
def symbol (text : String) : Parser Span := fun ts => match ts with
  | [] => none
  | t :: r => if t.is text then some (t.lead.span ++ [.text t.text], r) else none

/-- The symbol `text` with the blanks around it. -/
def spaced (text : String) : Parser Span := return (← symbol text) ++ (← gap)

/-- The symbol `text` with the blanks around it, if it comes next. -/
def spaced? (text : String) : Parser (Option Span) := do
  if ← isNext text then return some (← spaced text) else return none

/-- One of the symbols with the blanks around it, if one comes next. -/
def spacedOf? (texts : List String) : Parser (Option Span) := do
  let t ← peek
  if t.kind == .symbol && texts.contains t.text then return some (← spaced t.text) else return none

/-- A name whose blanks have been taken. -/
def ident : Parser Name := do
  let t ← bare .name
  return ⟨t.text, t.site⟩

/-- Repeats `step` until it has nothing more to give, at most `bound` times. -/
def many {α : Type} (bound : Nat) (step : Parser (Option α)) : Parser (List α) :=
  match bound with
  | 0 => pure []
  | n + 1 => do
    match ← step with
    | none => return []
    | some a => return a :: (← many n step)

/-- The empty lines before the next token. -/
def lineStart : Parser (List Span) := fun ts => match ts with
  | [] => none
  | t :: r => some (t.lines, { t with lines := [] } :: r)

end Parser

end AttrsUpgrade
