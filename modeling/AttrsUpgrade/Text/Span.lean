import AttrsUpgrade.Text.Blank
/-!
# Spans

A span is text as the tree keeps it. The indentation of the block that a line stands in, and the newline that the module
uses throughout, are marks in it; they become text when the span is written in its place. So a node can be written alone,
without the indentation it stood at.

The text between two tokens is a `Blank`, which still tells the lines apart that a span runs together.
-/

namespace AttrsUpgrade

inductive SpanPart where
  | text (s : String)
  /-- The newline of the module. -/
  | newline
  /-- The indentation of the block. -/
  | margin
deriving DecidableEq, Repr

abbrev Span := List SpanPart

instance : Coe String Span := ⟨fun s => [.text s]⟩

/-- What the marks of a span stand for. -/
structure Layout where
  margin : String
  newline : String
deriving DecidableEq, Repr

/-- The layout of a node that stands alone. -/
def Layout.alone : Layout := ⟨"", "\n"⟩

/-- The layout inside a block that is indented by `indent` more. -/
def Layout.deeper (l : Layout) (indent : String) : Layout := { l with margin := l.margin ++ indent }

def SpanPart.write (l : Layout) : SpanPart → String
  | .text s => s
  | .newline => l.newline
  | .margin => l.margin

def Span.write (l : Layout) : Span → String
  | [] => ""
  | p :: ps => p.write l ++ Span.write l ps

/-- Spans one after the other, written. -/
def writeAll (l : Layout) : List Span → String
  | [] => ""
  | s :: ss => Span.write l s ++ writeAll l ss

def SpanPart.holdsChar (c : Char) : SpanPart → Bool
  | .text s => s.toList.contains c
  | _ => false

/-- Whether an empty line holds a comment. -/
def Span.hasComment (s : Span) : Bool := s.any (SpanPart.holdsChar '#')

/-- A newline, as a mark if it is the module's. -/
def newlineSpan (newline : String) (s : String) : Span := if s = newline then [.newline] else [.text s]

/-- A text, or nothing if it is empty. -/
def textSpan (s : String) : Span := if s.isEmpty then [] else [.text s]

/-- A text of which the beginning `margin` is the indentation, if it begins so. -/
def marginSpan (margin s : String) : Span :=
  if margin.toList.isPrefixOf s.toList then .margin :: textSpan (String.ofList (s.toList.drop margin.length))
  else textSpan s

/-- The end of a line: blanks, perhaps a comment, and the newline. -/
def lineEnd (newline line : String) : Span :=
  let (body, nl) := Text.cutNewline line
  .text body :: newlineSpan newline nl

/-- An empty line in a block that is indented by `margin`. -/
def emptyLine (newline margin line : String) : Span :=
  let (body, nl) := Text.cutNewline line
  marginSpan margin body ++ newlineSpan newline nl

/-! ## Blanks between tokens -/

/-- The text between two tokens: blanks within a line or, where lines may end, the end of a line, empty lines, and what stands
before the next token on its line. -/
inductive Blank where
  | simple (s : String)
  | lines (first : Span) (empty : List Span) (last : Span)
deriving DecidableEq, Repr

namespace Blank

/-- No blanks at all. -/
def nothing : Blank := .simple ""

/-- Reads blanks; `margin` is the indentation of the block if lines may end in them. -/
def read (newline : String) (margin : Option String) (s : String) : Blank :=
  match margin with
  | none => .simple s
  | some margin =>
    match Text.splitLines s with
    | ([], rest) => .simple rest
    | (first :: empty, rest) =>
      .lines (lineEnd newline first) (empty.map (emptyLine newline margin)) (marginSpan margin rest)

def span : Blank → Span
  | .simple s => textSpan s
  | .lines first empty last => first ++ empty.flatten ++ last

/-- The blanks before any comment or newline. -/
def beginning : Blank → String
  | .simple s => String.ofList (s.toList.takeWhile (· != '#'))
  | .lines (.text s :: _) _ _ => String.ofList (s.toList.takeWhile (· != '#'))
  | .lines _ _ _ => ""

/-- What is left without the blanks before a comment. -/
def afterBeginning : Blank → Blank
  | .simple s => .simple (String.ofList (s.toList.dropWhile (· != '#')))
  | b => b

def isSimple : Blank → Bool
  | .simple _ => true
  | .lines _ _ _ => false

/-- The blanks that two commas leave when the second goes. Of the empty lines after the second, those with a comment are
kept. -/
def merge : Blank → Blank → Blank
  | left, .simple _ => left
  | .simple _, right => right
  | .lines first _ last, .lines _ empty _ => .lines first (empty.filter Span.hasComment) last

end Blank

end AttrsUpgrade
