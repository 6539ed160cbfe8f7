/-!
# Blanks, newlines and empty lines

Blanks are spaces, tabs, form feeds and a backslash at the end of a line. A line ends with `\n`, `\r\n` or `\r`. The text
before a token is a run of empty lines (blanks, perhaps a comment, a newline) and then blanks; `splitLines` takes it
apart.
-/

namespace AttrsUpgrade.Text

def isBlank (c : Char) : Bool := c == ' ' || c == '\t' || c == '\x0c'

/-- The newline at the front and what follows it. -/
def takeNewline? : List Char → Option (List Char × List Char)
  | '\r' :: '\n' :: cs => some (['\r', '\n'], cs)
  | '\r' :: cs => some (['\r'], cs)
  | '\n' :: cs => some (['\n'], cs)
  | _ => none

/-- A backslash before a newline at the front, both taken, and what follows. -/
def takeContinuation? : List Char → Option (List Char × List Char)
  | '\\' :: cs => (takeNewline? cs).map fun r => ('\\' :: r.1, r.2)
  | _ => none

/-- The first newline of a text, `\n` if there is none. -/
def firstNewline : List Char → String
  | [] => "\n"
  | c :: cs =>
    match takeNewline? (c :: cs) with
    | some (nl, _) => String.ofList nl
    | none => firstNewline cs

/-- Whether the text ends with a newline, where a line feed with a backslash before it does not count. -/
def endsWithNewline (cs : List Char) : Bool :=
  match cs.reverse with
  | '\n' :: '\r' :: c :: _ => c != '\\'
  | '\n' :: c :: _ => c != '\\'
  | '\n' :: [] => true
  | c :: _ => c == '\r'
  | [] => false

/-- Where a scan through blanks stands: nothing special, in a comment, or after a backslash. -/
inductive BlankMode where
  | plain
  | comment
  | escaped
deriving DecidableEq, Repr

/-- The mode after a character that ends no line. In a comment a backslash has no meaning. -/
def BlankMode.next (mode : BlankMode) (c : Char) : BlankMode :=
  if mode = .comment then .comment else if c = '#' then .comment else if c = '\\' then .escaped else .plain

/-- Splits blanks into the empty lines at their front, each with its newline, and the rest. `line` is the line read so far,
in reverse. -/
def splitLinesFrom (line : List Char) (mode : BlankMode) : List Char → List String × String
  | [] => ([], String.ofList line.reverse)
  | c :: cs =>
    if c = '\r' ∧ cs.head? = some '\n' then splitLinesFrom (c :: line) mode cs
    else if c = '\n' ∨ c = '\r' then
      if mode = .escaped then splitLinesFrom (c :: line) .plain cs
      else
        let (ls, r) := splitLinesFrom [] .plain cs
        (String.ofList (c :: line).reverse :: ls, r)
    else splitLinesFrom (c :: line) (mode.next c) cs

/-- The empty lines at the front of a text of blanks and comments, and the blanks after them. -/
def splitLines (s : String) : List String × String := splitLinesFrom [] .plain s.toList

/-- Splits empty lines after the last one that begins with `indent`. -/
def splitFooter (indent : String) (lines : List String) : List String × List String :=
  let rest := (lines.reverse.takeWhile fun l => !indent.toList.isPrefixOf l.toList).reverse
  (lines.take (lines.length - rest.length), rest)

/-- What stands after the last newline. -/
def lastLine (cs : List Char) : List Char := (cs.reverse.takeWhile fun c => c != '\n' && c != '\r').reverse

/-- The width of the indentation that ends the blanks `cs`. Form feeds at the beginning of the line do not count. -/
def indentWidth (cs : List Char) : Nat := ((lastLine cs).dropWhile (· == '\x0c')).length

/-- A line without the newline at its end, and that newline. -/
def cutNewline (line : String) : String × String :=
  match line.toList.reverse with
  | '\n' :: '\r' :: cs => (String.ofList cs.reverse, "\r\n")
  | '\n' :: cs => (String.ofList cs.reverse, "\n")
  | '\r' :: cs => (String.ofList cs.reverse, "\r")
  | _ => (line, "")

end AttrsUpgrade.Text
