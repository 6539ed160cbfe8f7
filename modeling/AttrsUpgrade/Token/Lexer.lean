import AttrsUpgrade.Token.Basic
import AttrsUpgrade.Token.Lexeme
/-!
# Reading tokens

`tokenize?` cuts a text into tokens. Line ends inside brackets and f-strings are blanks. Indentation is compared by width;
where a block ends, the empty lines up to the last one that begins with the block's indentation stay with it.
-/

namespace AttrsUpgrade

open Text Lexeme

/-- An f-string that is being read. -/
structure OpenFormat where
  quote : List Char
  raw : Bool
  /-- Open brackets inside it, replacement fields included. -/
  depth : Nat
  /-- Replacement fields whose format part has begun. -/
  specs : Nat

/-- Whether an expression is being read, and not literal text. -/
def OpenFormat.inExpr (f : OpenFormat) : Bool := f.specs < f.depth

def OpenFormat.crosses (f : OpenFormat) : Bool := f.quote.length == 3

def OpenFormat.enter (f : OpenFormat) : OpenFormat := { f with depth := f.depth + 1 }

def OpenFormat.leave (f : OpenFormat) : OpenFormat :=
  { f with depth := f.depth - 1, specs := if f.depth ≤ 1 then 0 else f.specs }

/-- Whether a colon read now begins the format part of the innermost replacement field. -/
def OpenFormat.atSpec (f : OpenFormat) : Bool := f.depth == f.specs + 1

def OpenFormat.textKind (f : OpenFormat) : FormatKind := if f.specs > 0 then .spec else if f.raw then .raw else .plain

structure LexState where
  /-- The newline of the module. -/
  newline : String
  /-- Blanks read since the last token, in reverse. -/
  lead : List Char
  /-- The empty lines before the token that is read next. -/
  lines : List Span
  /-- No token has been read on this line. -/
  lineStart : Bool
  /-- Open brackets outside f-strings. -/
  depth : Nat
  /-- Indentation of the open blocks, innermost first. -/
  indents : List (List Char)
  /-- Open f-strings, innermost first. -/
  formats : List OpenFormat

def LexState.start (newline : String) : LexState := ⟨newline, [], [], true, 0, [], []⟩

namespace LexState

def skip (s : LexState) (cs : List Char) : LexState := { s with lead := cs.reverse ++ s.lead }

/-- The indentation of the innermost block. -/
def indent (s : LexState) : String := String.ofList (s.indents.head?.getD [])

/-- Whether lines may end between tokens. -/
def inBrackets (s : LexState) : Bool :=
  match s.formats with
  | f :: _ => f.depth > 0
  | [] => s.depth > 0

/-- A token with what stands before it. -/
def emit (s : LexState) (kind : TokenKind) (text : List Char) : Token × LexState :=
  let margin := if s.inBrackets then some s.indent else none
  (⟨kind, .read s.newline margin (String.ofList s.lead.reverse), String.ofList text, 0, s.lines⟩,
    { s with lead := [], lines := [] })

/-! ## Lines and blocks -/

def topWidth (indents : List (List Char)) : Nat := (indents.head?.map indentWidth).getD 0

/-- A token without text: the beginning or the end of a block, or the end of the text. -/
def markToken (kind : TokenKind) (lines : List Span) : Token := ⟨kind, .nothing, "", 0, lines⟩

/-- Closes the blocks that are wider than `width`, handing each the empty lines that belong to it, and gives the blocks and
the lines that are left. -/
def closeBlocks (newline : String) (width : Nat) :
    List (List Char) → List String → List Token × List (List Char) × List String
  | [], lines => ([], [], lines)
  | i :: is, lines =>
    if width < indentWidth i then
      let margin := String.ofList i
      let (footer, lines) := splitFooter margin lines
      let (ts, is, lines) := closeBlocks newline width is lines
      (markToken .dedent (footer.map (emptyLine newline margin)) :: ts, is, lines)
    else ([], i :: is, lines)

/-- The empty lines before a line that closes blocks. They count as indented if they begin with the indentation of the block
that is open after the first one is closed. -/
def leadingLines (s : LexState) (closed : Nat) (lines : List String) : List Span :=
  lines.map (emptyLine s.newline (String.ofList ((s.indents.drop (min closed 1)).head?.getD [])))

/-- What comes before the first token of a line: the changes of indentation, and the empty lines that belong to the line. The
indentation of the line itself is dropped. -/
def indentation? (s : LexState) : Option (List Token × LexState) :=
  if !s.lineStart then some ([], s)
  else if s.depth > 0 || !s.formats.isEmpty then some ([], { s with lineStart := false })
  else
    let lead := s.lead.reverse
    let (lines, _) := splitLines (String.ofList lead)
    let width := indentWidth lead
    if topWidth s.indents < width then
      let text := lastLine lead
      let s := { s with lineStart := false, lead := [], indents := text :: s.indents }
      match text.drop ((s.indents.drop 1).head?.getD []).length with
      | [] => none
      | more => some ([markToken (.indent (String.ofList more)) []], { s with lines := s.leadingLines 0 lines })
    else
      let (ts, indents, lines) := closeBlocks s.newline width s.indents lines
      if topWidth indents = width then
        some (ts, { s with lineStart := false, lead := [], indents, lines := s.leadingLines ts.length lines })
      else none

/-! ## Tokens -/

/-- Follows a bracket through the open f-strings and brackets, and a colon that begins a format part. -/
def bracket (s : LexState) (op : List Char) : LexState :=
  if op = ['('] ∨ op = ['['] ∨ op = ['\x7b'] then
    match s.formats with
    | f :: fs => { s with formats := f.enter :: fs }
    | [] => { s with depth := s.depth + 1 }
  else if op = [')'] ∨ op = [']'] ∨ op = ['\x7d'] then
    match s.formats with
    | f :: fs => { s with formats := f.leave :: fs }
    | [] => { s with depth := s.depth - 1 }
  else if op = [':'] then
    match s.formats with
    | f :: fs => if f.atSpec then { s with formats := { f with specs := f.specs + 1 } :: fs } else s
    | [] => s
  else s

/-- Words that begin a statement wherever they stand. -/
def statementWords : List String :=
  ["import", "class", "def", "try", "except", "finally", "while", "with", "return", "continue", "break", "del", "pass",
    "global", "assert", "nonlocal"]

/-- Whether a word stands where no statement of the block may begin: first on a continued line, and to the left of the
block. -/
def misplaced (s : LexState) (word : List Char) : Bool :=
  statementWords.contains (String.ofList word) && s.lead.any (fun c => c == '\n' || c == '\r') &&
    (lastLine s.lead.reverse).length < topWidth s.indents

/-- A word, operator, number or string at the front. -/
def lexeme? (s : LexState) (cs : List Char) : Option (Token × LexState × List Char) :=
  match takeStringStart? cs with
  | some (letters, p, quote, rest) =>
    if p.format then
      let (t, s) := s.emit .formatOpen (letters ++ quote)
      some (t, { s with formats := ⟨quote, p.raw, 0, 0⟩ :: s.formats }, rest)
    else
      match takeBody? quote rest with
      | some (body, rest) =>
        let (t, s) := s.emit .string (letters ++ quote ++ body)
        some (t, s, rest)
      | none => none
  | none =>
    match takeNumber? cs with
    | some (text, rest) =>
      let (t, s) := s.emit .number text
      some (t, s, rest)
    | none =>
      match takeOperator? cs with
      | some (op, rest) =>
        let (t, s) := s.emit .symbol op
        some (t, s.bracket op, rest)
      | none =>
        let (word, rest) := takeWord cs
        if isIdentifier word && !s.misplaced word then
          let (t, s) := s.emit (if reservedWords.contains (String.ofList word) then .symbol else .name) word
          some (t, s, rest)
        else none

/-- Whether no blank has been read on this line since the last token. -/
def atBoundary (s : LexState) : Bool :=
  match s.lead with
  | [] => true
  | c :: _ => c == '\n' || c == '\r'

/-- One step outside literal f-string text. -/
def codeStep? (s : LexState) (cs : List Char) : Option (List Token × LexState × List Char) :=
  match cs with
  | [] => none
  | c :: r =>
    if isBlank c then some ([], s.skip [c], r)
    else
      match takeContinuation? cs with
      | some (taken, rest) => some ([], s.skip taken, rest)
      | none =>
        match takeNewline? cs with
        | some (nl, rest) =>
          if s.formats.any fun f => !f.crosses then none
          else if !s.lineStart && s.depth == 0 && s.formats.isEmpty then
            let (t, s) := s.emit .newline nl
            some ([t], { s with lineStart := true }, rest)
          else some ([], { s.skip nl with lineStart := true }, rest)
        | none =>
          if c == '#' then
            let comment := cs.takeWhile fun c => c != '\n' && c != '\r'
            some ([], s.skip comment, cs.drop comment.length)
          else if s.atBoundary && s.formats.any fun f => f.quote.isPrefixOf cs then none
          else
            match s.indentation? with
            | none => none
            | some (ts, s) =>
              match s.lexeme? cs with
              | some (t, s, rest) => some (ts ++ [t], s, rest)
              | none => none

/-- One step: blanks, or a token with the changes of indentation before it. -/
def step? (s : LexState) (cs : List Char) : Option (List Token × LexState × List Char) :=
  match s.formats with
  | f :: fs =>
    if f.inExpr then s.codeStep? cs
    else
      match takeFormatText ⟨s.formats.map OpenFormat.quote, f.crosses, f.textKind⟩ 0 false false cs with
      | ([], _) =>
        if fs.any fun f => f.quote.isPrefixOf cs then none
        else if f.quote.isPrefixOf cs then
          let (t, s) := s.emit .formatClose f.quote
          some ([t], { s with formats := fs }, cs.drop f.quote.length)
        else s.codeStep? cs
      | (text, rest) =>
        let (t, s) := s.emit .formatText text
        some ([t], s, rest)
  | [] => s.codeStep? cs

/-- The tokens that end a text. -/
def finish? (s : LexState) : Option (List Token) :=
  if s.formats.isEmpty then
    let (lines, _) := splitLines (String.ofList s.lead.reverse)
    let (ts, _, lines) := closeBlocks s.newline 0 s.indents lines
    some (ts ++ [markToken .finish (lines.map (emptyLine s.newline ""))])
  else none

/-- Steps until the text is used up; each one takes at least a character. -/
def run? (s : LexState) : Nat → List Char → Option (List Token)
  | _, [] => s.finish?
  | 0, _ => none
  | n + 1, cs =>
    match s.step? cs with
    | none => none
    | some (ts, s, rest) => (run? s n rest).map (ts ++ ·)

end LexState

/-- The tokens of a text, numbered from `base`, where `newline` is the newline of the module; `none` if some part of the text
is no token. -/
def tokenize? (newline : String) (base : Nat) (cs : List Char) : Option (List Token) :=
  ((LexState.start newline).run? cs.length cs).map fun ts => (ts.zipIdx base).map fun (t, i) => { t with site := i }

end AttrsUpgrade
