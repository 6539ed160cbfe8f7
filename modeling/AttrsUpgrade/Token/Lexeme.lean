import AttrsUpgrade.Text.Blank
import AttrsUpgrade.Text.Identifier
/-!
# Lexemes

Each function takes the longest number, word, operator or string literal at the front of a text and returns it with the
rest; nothing is lost between the two.
-/

namespace AttrsUpgrade.Lexeme

open AttrsUpgrade.Text

/-! ## Numbers -/

/-- Digits, with single underscores between them; `afterDigit` tells whether an underscore may come first. -/
def takeRunFrom (isDigit : Char → Bool) (afterDigit : Bool) : List Char → List Char × List Char
  | [] => ([], [])
  | c :: cs =>
    if isDigit c || (afterDigit && c == '_' && cs.head?.any isDigit) then
      let (ds, r) := takeRunFrom isDigit (c != '_') cs
      (c :: ds, r)
    else ([], c :: cs)

/-- Digits, with single underscores between them. -/
def takeRun (isDigit : Char → Bool) (cs : List Char) : List Char × List Char := takeRunFrom isDigit false cs

/-- Digits after a base mark such as `0x`, where an underscore may come first. -/
def takeBased (isDigit : Char → Bool) (cs : List Char) : List Char × List Char := takeRunFrom isDigit true cs

def isHexDigit (c : Char) : Bool := c.isDigit || ('a' ≤ c && c ≤ 'f') || ('A' ≤ c && c ≤ 'F')

def isOctDigit (c : Char) : Bool := '0' ≤ c && c ≤ '7'

def isBinDigit (c : Char) : Bool := c == '0' || c == '1'

/-- An exponent such as `e-10`, or nothing. -/
def takeExponent (cs : List Char) : List Char × List Char :=
  match cs with
  | e :: s :: r =>
    if e == 'e' || e == 'E' then
      if s == '+' || s == '-' then
        match takeRun Char.isDigit r with
        | ([], _) => ([], cs)
        | (ds, r') => (e :: s :: ds, r')
      else
        match takeRun Char.isDigit (s :: r) with
        | ([], _) => ([], cs)
        | (ds, r') => (e :: ds, r')
    else ([], cs)
  | _ => ([], cs)

/-- The `j` of an imaginary number, or nothing. -/
def takeImaginary : List Char → List Char × List Char
  | 'j' :: r => (['j'], r)
  | 'J' :: r => (['J'], r)
  | cs => ([], cs)

/-- An integer without point, exponent or `j`: based, or decimal without leading zeros unless all are zeros. -/
def takeInteger (cs : List Char) : List Char × List Char :=
  let based (mark : Char) (isDigit : Char → Bool) (r : List Char) : List Char × List Char :=
    match takeBased isDigit r with
    | ([], _) => (['0'], mark :: r)
    | (ds, r') => ('0' :: mark :: ds, r')
  match cs with
  | '0' :: 'x' :: r => based 'x' isHexDigit r
  | '0' :: 'X' :: r => based 'X' isHexDigit r
  | '0' :: 'b' :: r => based 'b' isBinDigit r
  | '0' :: 'B' :: r => based 'B' isBinDigit r
  | '0' :: 'o' :: r => based 'o' isOctDigit r
  | '0' :: 'O' :: r => based 'O' isOctDigit r
  | '0' :: _ => takeRun (· == '0') cs
  | _ => takeRun Char.isDigit cs

/-- A number at the front, if there is one. -/
def takeNumber? (cs : List Char) : Option (List Char × List Char) :=
  let finish (taken : List Char) (r : List Char) : List Char × List Char :=
    let (e, r) := takeExponent r
    let (j, r) := takeImaginary r
    (taken ++ e ++ j, r)
  match takeRun Char.isDigit cs with
  | ([], '.' :: r) =>
    match takeRun Char.isDigit r with
    | ([], _) => none
    | (ds, r) => some (finish ('.' :: ds) r)
  | ([], _) => none
  | (ds, '.' :: r) =>
    let (fs, r) := takeRun Char.isDigit r
    some (finish (ds ++ '.' :: fs) r)
  | (ds, r) =>
    match finish ds r with
    | (taken, r') => if taken.length = ds.length then some (takeInteger cs) else some (taken, r')

/-! ## Words and operators -/

/-- Characters that a word is cut from: letters, digits, underscores, and everything outside ASCII. -/
def isWordChar (c : Char) : Bool := c.isAlphanum || c == '_' || 128 ≤ c.toNat

/-- The characters of a word, whether or not they make an identifier. -/
def takeWord (cs : List Char) : List Char × List Char := (cs.takeWhile isWordChar, cs.dropWhile isWordChar)

/-- Operators and brackets, longer ones before their beginnings. -/
def operators : List String :=
  ["**=", ">>=", "<<=", "//=", "...", "**", ">>", "<<", "//", "->", ":=", "+=", "-=", "*=", "/=", "%=", "&=", "@=", "|=",
    "^=", "!=", "==", "<=", ">=", "+", "-", "*", "/", "%", "&", "@", "|", "^", "!", "=", "<", ">", "~", "[", "]", "(", ")",
    "\x7b", "\x7d", ":", ";", ".", ","]

/-- The longest operator at the front. -/
def takeOperator? (cs : List Char) : Option (List Char × List Char) :=
  (operators.find? fun o => o.toList.isPrefixOf cs).map fun o => (o.toList, cs.drop o.length)

/-! ## String literals -/

/-- What a string prefix says. -/
structure StringPrefix where
  raw : Bool
  bytes : Bool
  format : Bool
deriving DecidableEq, Repr

/-- The meaning of the letters before a quote, if they may stand there. -/
def stringPrefix? (letters : List Char) : Option StringPrefix :=
  match letters.map Char.toLower with
  | [] => some ⟨false, false, false⟩
  | ['u'] => some ⟨false, false, false⟩
  | ['r'] => some ⟨true, false, false⟩
  | ['b'] => some ⟨false, true, false⟩
  | ['b', 'r'] => some ⟨true, true, false⟩
  | ['r', 'b'] => some ⟨true, true, false⟩
  | ['f'] => some ⟨false, false, true⟩
  | ['f', 'r'] => some ⟨true, false, true⟩
  | ['r', 'f'] => some ⟨true, false, true⟩
  | _ => none

/-- One or three equal quotes at the front. -/
def takeQuote? : List Char → Option (List Char × List Char)
  | '\'' :: '\'' :: '\'' :: cs => some (['\'', '\'', '\''], cs)
  | '"' :: '"' :: '"' :: cs => some (['"', '"', '"'], cs)
  | '\'' :: cs => some (['\''], cs)
  | '"' :: cs => some (['"'], cs)
  | _ => none

/-- The beginning of a string literal: its prefix, its meaning, its quote and the rest. -/
def takeStringStart? (cs : List Char) : Option (List Char × StringPrefix × List Char × List Char) :=
  let letters := (cs.take 3).takeWhile Char.isAlpha
  match stringPrefix? letters, takeQuote? (cs.drop letters.length) with
  | some p, some (q, r) => some (letters, p, q, r)
  | _, _ => none

/-- The body of a literal up to and including its closing quote. A backslash takes the next character with it. A literal in
single quotes may not cross a line end, unless a backslash has continued it before. -/
def takeBodyFrom? (quote : List Char) (escaped crosses : Bool) : List Char → Option (List Char × List Char)
  | [] => none
  | c :: cs =>
    if escaped then
      (takeBodyFrom? quote (c == '\r' && cs.head? == some '\n') (crosses || c == '\n' || c == '\r') cs).map
        fun r => (c :: r.1, r.2)
    else if quote.isPrefixOf (c :: cs) then some (quote, cs.drop (quote.length - 1))
    else if (c == '\n' || c == '\r') && !crosses then none
    else (takeBodyFrom? quote (c == '\\') crosses cs).map fun r => (c :: r.1, r.2)

/-- The body of a literal up to and including its closing quote; only a triple quote lets it cross lines freely. -/
def takeBody? (quote cs : List Char) : Option (List Char × List Char) :=
  takeBodyFrom? quote false (quote.length == 3) cs

/-! ## F-string text -/

def isNameChar (c : Char) : Bool := c.isAlphanum || c == '-'

/-- Whether a text is words of letters, digits and hyphens with single spaces between them; `afterWord` tells that a word has
begun. -/
def isCharName (afterWord : Bool) : List Char → Bool
  | [] => afterWord
  | c :: cs => if c == ' ' then afterWord && isCharName false cs else isNameChar c && isCharName true cs

/-- The length of a character name in braces at the front, as in `\N{BULLET}`. -/
def charNameLength? : List Char → Option Nat
  | '\x7b' :: cs =>
    let name := cs.takeWhile fun c => isNameChar c || c == ' '
    if isCharName false name ∧ cs[name.length]? = some '\x7d' then some (name.length + 2) else none
  | _ => none

/-- How literal f-string text is read. -/
inductive FormatKind where
  /-- A backslash takes the next character with it, but `\N` only with a character name. -/
  | plain
  /-- Backslashes are text, and so are line ends. -/
  | raw
  /-- The format part of a replacement field, where doubled braces are not text. -/
  | spec
deriving DecidableEq, Repr

structure FormatMode where
  /-- The quotes of all f-strings that are open, each of which ends the text. -/
  quotes : List (List Char)
  /-- Whether the quote of the innermost one lets text cross lines. -/
  crosses : Bool
  kind : FormatKind
deriving Repr

/-- How many characters at the front are literal text, and whether the one after them is escaped; 0 if the text ends here.
`continued` tells that a backslash stands before them. -/
def FormatMode.unit (mode : FormatMode) (continued : Bool) : List Char → Nat × Bool
  | [] => (0, false)
  | c :: cs =>
    let isNewline := c == '\n' || c == '\r'
    let newlineLength := if c == '\r' && cs.head? == some '\n' then 2 else 1
    if c == '\x7b' || c == '\x7d' then
      if mode.kind != .spec && cs.head? == some c then (2, false) else (0, false)
    else
      match mode.kind with
      | .raw => (1, c == '\\')
      | .spec => if isNewline && !mode.crosses then (if continued then newlineLength else 0, false) else (1, c == '\\')
      | .plain =>
        if c == '\\' then
          if cs.head? == some 'N' then ((charNameLength? (cs.drop 1)).elim 0 (· + 2), false) else (1, true)
        else if isNewline && !mode.crosses then (0, false)
        else (1, false)

/-- Literal f-string text at the front, up to a single brace, a quote, or a line end that may not be crossed. `skip` counts
characters already known to be text, `escaped` tells that a backslash takes the next one, `continued` that one stands before
it. -/
def takeFormatText (mode : FormatMode) (skip : Nat) (escaped continued : Bool) : List Char → List Char × List Char
  | [] => ([], [])
  | c :: cs =>
    let take (skip : Nat) (escaped : Bool) : List Char × List Char :=
      let (t, r) := takeFormatText mode skip escaped (c == '\\') cs
      (c :: t, r)
    if skip > 0 then take (skip - 1) false
    else if escaped && mode.kind == .plain then take (if c == '\r' && cs.head? == some '\n' then 1 else 0) false
    else if !escaped && mode.quotes.any fun q => q.isPrefixOf (c :: cs) then ([], c :: cs)
    else
      match mode.unit continued (c :: cs) with
      | (0, _) => ([], c :: cs)
      | (n + 1, escapes) => take n (escapes && !escaped)

end AttrsUpgrade.Lexeme
