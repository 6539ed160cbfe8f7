import AttrsUpgrade.Tree.Basic
/-!
# Printing the tree

Expressions and small statements print as spans, for which the block they stand in still has to be known. `Module.print`
writes everything in source order. What a tree built anew leaves open is filled in here: a missing comma prints `, ` and a
missing semicolon `; ` unless nothing follows, and a suite without statements prints `pass`.
-/

namespace AttrsUpgrade

def Name.print (n : Name) : Span := [.text n.text]

def ArgKind.print : ArgKind → Span
  | .positional => []
  | .keyword name equals => name.print ++ equals
  | .iterable star => star
  | .mapping star => star

mutual

def Expr.print : Expr → Span
  | .name n => n.print
  | .literal s => [.text s]
  | .string s => [.text s]
  | .fstring ps => printPieces ps
  | .concat l gap r => l.print ++ gap ++ r.print
  | .paren o e c => o ++ e.print ++ c
  | .attribute v dot a => v.print ++ dot ++ a.print
  | .call f o args c => f.print ++ o ++ printArgs args ++ c
  | .subscript v o ps c => v.print ++ o ++ printPieces ps ++ c
  | .display _ o ps c => o ++ printPieces ps ++ c
  | .lambda _ o ps colon body => o ++ printParams ps ++ colon ++ body.print
  | .comprehension _ o ps loop inner c => o ++ printPieces ps ++ loop.print ++ printLoops inner ++ c
  | .walrus t sign v => t.print ++ sign ++ v.print
  | .operation ps => printPieces ps

def Piece.print : Piece → Span
  | .text s => s
  | .expr e => e.print

def printPieces : List Piece → Span
  | [] => []
  | p :: ps => p.print ++ printPieces ps

/-- An argument on its own; `more` tells whether another one follows. -/
def Arg.print (more : Bool) : Arg → Span
  | ⟨kind, value, comma, after⟩ => kind.print ++ value.print ++ comma.getD (if more then ", " else []) ++ after

def printArgs : List Arg → Span
  | [] => []
  | a :: as => a.print (!as.isEmpty) ++ printArgs as

def Param.print : Param → Span
  | .star comma => "*" ++ comma.getD []
  | .slash comma => "/" ++ comma.getD []
  | .named star name hint value comma =>
    star ++ name.print ++ printPieces hint ++ printPieces value ++ comma.getD []

def printParams : List Param → Span
  | [] => []
  | p :: ps => p.print ++ printParams ps

def Loop.print : Loop → Span
  | ⟨opening, target, sep, iter, conditions⟩ =>
    opening ++ target.print ++ sep ++ iter.print ++ printPieces conditions

def printLoops : List Loop → Span
  | [] => []
  | l :: ls => l.print ++ printLoops ls

end

/-- The text of an expression that stands alone. -/
def Expr.text (e : Expr) : String := Span.write .alone e.print

/-- The text of an argument that stands alone. -/
def Arg.text (a : Arg) : String := Span.write .alone (a.print false)

def Hint.print (a : Hint) : Span := a.mark ++ a.expr.print

/-! ## Imports -/

def DotPart.print (p : DotPart) : Span := p.dot ++ [.text p.name]

def DottedName.print (d : DottedName) : Span := .text d.head :: d.tail.flatMap DotPart.print

def Comma.print (c : Comma) : Span := c.before.span ++ "," ++ c.after.span

def AsName.print (a : AsName) : Span := a.sep ++ a.name.print

def Alias.print (more : Bool) (a : Alias) : Span :=
  a.name.print ++ (a.asName.map AsName.print).getD [] ++ (a.comma.map Comma.print).getD (if more then ", " else [])

def printAliases : List Alias → Span
  | [] => []
  | a :: as => a.print (!as.isEmpty) ++ printAliases as

def Imported.print : Imported → Span
  | .star => "*"
  | .names none as => printAliases as
  | .names (some p) as => "(" ++ p.opening.span ++ printAliases as ++ p.closing.span ++ ")"

def FromImport.print (f : FromImport) : Span :=
  f.opening ++ f.dots ++ (f.source.map DottedName.print).getD [] ++ f.sep ++ f.imported.print

/-! ## Statements -/

def Target.print (t : Target) : Span := t.target.print ++ t.equals

def Assigned.print (a : Assigned) : Span := a.equals ++ a.value.print

def Declared.print (d : Declared) : Span := d.name.print ++ d.comma

def Small.print : Small → Span
  | .expr e => e.print
  | .assign targets value => targets.flatMap Target.print ++ value.print
  | .annAssign target hint value => target.print ++ hint.print ++ (value.map Assigned.print).getD []
  | .augAssign target sign value => target.print ++ sign ++ value.print
  | .importNames opening names => opening ++ printAliases names
  | .importFrom f => f.print
  | .declare _ opening names => opening ++ names.flatMap Declared.print
  | .plain _ pieces => printPieces pieces

/-- The text of a small statement that stands alone. -/
def Small.text (s : Small) : String := Span.write .alone s.print

def Item.print (more : Bool) (i : Item) : Span := i.stmt.print ++ i.semicolon.getD (if more then "; " else [])

def printItems : List Item → Span
  | [] => []
  | i :: is => i.print (!is.isEmpty) ++ printItems is

def AsTarget.print (a : AsTarget) : Span := a.sep ++ a.target.print

def WithItem.print (w : WithItem) : Span := w.value.print ++ (w.asTarget.map AsTarget.print).getD [] ++ w.comma

def Header.print : Header → Span
  | .word s => s
  | .test opening e => opening ++ e.print
  | .handler opening e sep name => opening ++ e.print ++ sep ++ name.print
  | .loop opening target sep iter => opening ++ target.print ++ sep ++ iter.print
  | .context opening items => opening ++ items.flatMap WithItem.print

/-! ## Lines

What begins a line is written after the empty lines before it and the indentation of the block. -/

def Line.print (l : Line) : Span := l.leading.flatten ++ .margin :: printItems l.items ++ l.trailing

def ClauseHead.print (h : ClauseHead) : Span := h.leading.flatten ++ .margin :: h.header.print

def Decorator.print (d : Decorator) : Span := d.leading.flatten ++ .margin :: d.mark ++ d.expr.print ++ d.trailing

def FuncHead.print (h : FuncHead) : Span :=
  h.leading.flatten ++ h.decorators.flatMap Decorator.print ++ h.between.flatten ++ .margin :: h.opening ++
    h.name.print ++ h.lpar ++ printParams h.params ++ h.rpar ++ (h.returns.map Hint.print).getD []

def ClassArgs.print (a : ClassArgs) : Span := a.opening ++ printArgs a.args ++ a.closing

def ClassHead.print (h : ClassHead) : Span :=
  h.leading.flatten ++ h.decorators.flatMap Decorator.print ++ h.between.flatten ++ .margin :: h.opening ++
    h.name.print ++ (h.args.map ClassArgs.print).getD []

mutual

def Stmt.write (l : Layout) : Stmt → String
  | .line x => Span.write l x.print
  | .compound cs => writeClauses l cs
  | .funcDef head body => Span.write l head.print ++ body.write l
  | .classDef head body => Span.write l head.print ++ body.write l

def Clause.write (l : Layout) : Clause → String
  | ⟨head, body⟩ => Span.write l head.print ++ body.write l

def writeClauses (l : Layout) : List Clause → String
  | [] => ""
  | c :: cs => c.write l ++ writeClauses l cs

/-- The block's own indentation counts from the lines after its header. -/
def Suite.write (l : Layout) : Suite → String
  | .inline opening items trailing =>
    Span.write l (opening ++ (if items.isEmpty then [.text "pass"] else printItems items) ++ trailing)
  | .block opening indent body footer =>
    Span.write l opening ++
      (if body.isEmpty then Span.write (l.deeper indent) [.margin, .text "pass", .newline]
        else writeStmts (l.deeper indent) body) ++
      writeAll (l.deeper indent) footer

def writeStmts (l : Layout) : List Stmt → String
  | [] => ""
  | s :: ss => s.write l ++ writeStmts l ss

end

/-- The text without the newline at its end. -/
def dropFinalNewline (s : String) : String := (Text.cutNewline s).1

/-- The text of a module. -/
def Module.print (m : Module) : String :=
  let l : Layout := ⟨"", m.newline⟩
  let text := writeAll l m.header ++ writeStmts l m.body ++ writeAll l m.footer
  if m.finalNewline then
    if text.isEmpty then m.newline else text
  else dropFinalNewline text

end AttrsUpgrade
