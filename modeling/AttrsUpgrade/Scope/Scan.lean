import AttrsUpgrade.Scope.Basic
import AttrsUpgrade.Grammar.Stmt
/-!
# Filling the table

`Module.scan` goes through a module and records in a `Table` every assignment and every access. It visits things in the order
in which they take effect: the targets of an assignment before its value, the first iterable of a comprehension before
all else of it, the body of a function before its decorators.

A string in a type hint is read as a module of its own, and its names are accesses.
-/

namespace AttrsUpgrade

/-- Where the scan stands. -/
structure Place where
  scope : Scope
  /-- The outermost attribute access around the place; a call begins afresh. -/
  dotted : Option Expr
  /-- Strings here are type hints. -/
  typeHint : Bool
  /-- The place is inside an annotation. -/
  annotated : Bool
  /-- The place is inside the index of `typing.Literal`, where strings are no type hints. -/
  literal : Bool
  /-- Names here are assigned to. -/
  store : Bool
  /-- The place is inside a string, where no name is assigned to by being a target. -/
  quoted : Bool

namespace Place

def top : Place := ⟨[], none, false, false, false, false, false⟩

def load (p : Place) : Place := { p with store := false }

def target (p : Place) : Place := { p with store := true }

def inside (p : Place) (s : Scope) : Place := { p with scope := s }

/-- Inside an annotation. -/
def hint (p : Place) : Place := { p with typeHint := true, annotated := true }

/-- The place of a call's function and arguments. -/
def call (p : Place) : Place := { p with dotted := none, typeHint := false }

def readsStrings (p : Place) : Bool := (p.typeHint || p.annotated) && !p.literal

end Place

/-- What literals stand for. -/
abbrev LiteralResult := Except Text.LiteralError Text.LiteralValue

/-- The values of two literals side by side. -/
def LiteralResult.append (a b : LiteralResult) : LiteralResult :=
  match a, b with
  | .ok a, .ok b => a.append b
  | .error e, _ => .error e
  | _, .error e => .error e

def Expr.isFormat : Expr → Bool
  | .fstring _ => true
  | _ => false

/-- The value of literals standing alone or side by side, if none is an f-string. -/
def Expr.literalValue? : Expr → Option LiteralResult
  | .string s => some (Text.literalValue s)
  | .concat l _ r =>
    match l.literalValue?, r.literalValue? with
    | some (.error e), _ => if r.isFormat then none else some (.error e)
    | some a, some b => some (a.append b)
    | _, _ => none
  | _ => none

/-- The source text that a literal stands for. -/
def Text.LiteralValue.source : Text.LiteralValue → Except Text.SourceError String
  | .text s => .ok s
  | .bytes b => (Text.decodeSource b.toByteArray).map Prod.snd

def Text.LiteralValue.isEmpty : Text.LiteralValue → Bool
  | .text s => s.isEmpty
  | .bytes b => b.isEmpty

section
-- `onText` scans the text of a string that is a type hint.
variable (onText : Place → String → Table → Table)

/-- Scans a literal as a type hint, if it is one and not empty. -/
def scanLiteral? (p : Place) (e : Expr) (t : Table) : Option Table :=
  if p.readsStrings then
    match e.literalValue? with
    | none => none
    | some (.error e) => some (t.fail (.literal e))
    | some (.ok v) =>
      if v.isEmpty then none
      else
        match v.source with
        | .ok s => some (onText p s t)
        | .error e => some (t.fail (.source e))
  else none

/-- A name that is used or assigned to. -/
def scanName (p : Place) (n : Name) (t : Table) : Table :=
  let t := t.place p.scope n.site
  if p.store && !p.quoted then t.assign p.scope n.text none
  else
    let paths := (p.dotted.map Expr.dottedNames).getD []
    t.access p.scope (if paths.isEmpty then [n.text] else paths)

/-- How the arguments of a call are scanned. -/
inductive CallKind where
  | usual
  /-- The first argument is not scanned, the others are type hints. -/
  | typeVariable
  /-- The first argument is a type hint. -/
  | cast
deriving DecidableEq, Repr

def CallKind.of (names : List String) : CallKind :=
  if names.contains "typing.NewType" || names.contains "typing.TypeVar" then .typeVariable
  else if names.contains "typing.cast" then .cast
  else .usual

/-- The qualified names of an expression, as far as the table knows now. -/
def Table.namesOf (t : Table) (s : Scope) (e : Expr) : List String :=
  match e.fullName? with
  | some path => t.qualifiedNames s path
  | none => []

/-- The place of a subscript's parts. The index of a name from `typing` holds type hints, that of `Literal` holds none. -/
def Place.subscript (p : Place) (t : Table) (value : Expr) : Place :=
  match value.bare with
  | .name n =>
    let names := t.qualifiedNames p.scope n.text
    let typing := names.any fun q => "typing.".toList.isPrefixOf q.toList || "typing_extensions.".toList.isPrefixOf q.toList
    { p with typeHint := typing, literal := p.literal || names.contains "typing.Literal" || names.contains "typing_extensions.Literal" }
  | _ => { p with typeHint := false }

mutual

def scanExpr (p : Place) (e : Expr) (t : Table) : Table :=
  match e with
  | .name n => scanName p n t
  | .literal _ => t
  | .string s => (scanLiteral? onText p (.string s) t).getD t
  | .fstring ps => scanPieces p ps t
  | .concat l g r =>
    match scanLiteral? onText p (.concat l g r) t with
    | some t => t
    | none => scanExpr p r (scanExpr p l t)
  | .paren _ e _ => scanExpr p e t
  | .attribute v d a =>
    let p := { p.load with dotted := some (p.dotted.getD (.attribute v d a)) }
    scanExpr p v t
  | .call f _ args _ =>
    let kind := CallKind.of (t.namesOf p.scope f)
    let p := p.call
    scanArgs p kind true args (scanExpr p f t)
  | .subscript v _ ps _ =>
    let p := (p.subscript t v).load
    scanPieces p ps (scanExpr p v t)
  | .display _ _ ps _ => scanPieces p ps t
  | .lambda site _ ps _ body =>
    let q := p.inside (⟨site, .function none⟩ :: p.scope)
    scanExpr q body ((scanParams p q.scope ps t).tick q.scope)
  | .comprehension site _ ps loop inner _ =>
    let q := p.inside (⟨site, .comprehension⟩ :: p.scope)
    let t := scanFirstLoop p q loop t
    let t := scanLoops q inner t
    scanPieces q ps t
  | .walrus target _ v => (scanExpr p v (scanExpr p.target target t)).tick p.scope
  | .operation ps => scanPieces p ps t

def scanPiece (p : Place) (x : Piece) (t : Table) : Table :=
  match x with
  | .text _ => t
  | .expr e => scanExpr p e t

def scanPieces (p : Place) (ps : List Piece) (t : Table) : Table :=
  match ps with
  | [] => t
  | x :: ps => scanPieces p ps (scanPiece p x t)

def scanArg (p : Place) (a : Arg) (t : Table) : Table :=
  match a with
  | ⟨_, v, _, _⟩ => scanExpr p v t

/-- Arguments of a call of the given kind; `first` tells that none has been scanned. -/
def scanArgs (p : Place) (kind : CallKind) (first : Bool) (args : List Arg) (t : Table) : Table :=
  match args with
  | [] => t
  | a :: as =>
    let t' :=
      match kind, first with
      | .typeVariable, true => t
      | .typeVariable, false => scanArg { p with typeHint := true } a t
      | .cast, true => scanArg { p with typeHint := true } a t
      | _, _ => scanArg p a t
    scanArgs p kind false as t'

/-- A parameter belongs to the scope `s`, its default and annotation to the place around. -/
def scanParam (p : Place) (s : Scope) (x : Param) (t : Table) : Table :=
  match x with
  | .star _ => t
  | .slash _ => t
  | .named _ name hint value _ =>
    scanPieces p.load.hint hint (scanPieces p.load value (t.assign s name.text none))

def scanParams (p : Place) (s : Scope) (ps : List Param) (t : Table) : Table :=
  match ps with
  | [] => t
  | x :: ps => scanParams p s ps (scanParam p s x t)

/-- The first loop of a comprehension: its iterable stands outside. -/
def scanFirstLoop (p q : Place) (l : Loop) (t : Table) : Table :=
  match l with
  | ⟨_, target, _, iter, conditions⟩ =>
    let t := scanExpr p iter t
    scanPieces q conditions ((scanExpr q.target target t).tick q.scope)

def scanLoop (q : Place) (l : Loop) (t : Table) : Table :=
  match l with
  | ⟨_, target, _, iter, conditions⟩ => scanPieces q conditions (scanExpr q iter (scanExpr q.target target t))

/-- The other loops; time moves on only after the last. -/
def scanLoops (q : Place) (ls : List Loop) (t : Table) : Table :=
  match ls with
  | [] => t
  | l :: ls => (scanLoops q ls (scanLoop q l t)).tick q.scope

end

/-! ## Statements -/

def Alias.imported (a : Alias) : ImportedName := ⟨a.name.beginnings, a.renamed?⟩

/-- The names that an alias binds. -/
def Alias.bound (a : Alias) : List String :=
  match a.renamed? with
  | some n => [n]
  | none => a.name.beginnings

def scanAliases (s : Scope) (origin : String) (aliases : List Alias) (t : Table) : Table :=
  let source : ImportSource := ⟨origin, aliases.map Alias.imported⟩
  ((aliases.flatMap Alias.bound).foldl (fun t n => t.assign s n (some source)) t).tick s

def scanSmall (p : Place) (x : Small) (t : Table) : Table :=
  match x with
  | .expr e => scanExpr onText p e t
  | .assign targets value =>
    let t := targets.foldl (fun t x => scanExpr onText p.target x.target t) t
    (scanExpr onText p value t).tick p.scope
  | .annAssign target hint value =>
    let t := scanExpr onText p.target target t
    let t := scanExpr onText p.hint hint.expr t
    (value.elim t fun a => scanExpr onText p a.value t).tick p.scope
  | .augAssign target _ value => (scanExpr onText p value (scanExpr onText p.target target t)).tick p.scope
  | .importNames _ as => scanAliases p.scope "" as t
  | .importFrom f => scanAliases p.scope f.origin f.imported.aliases t
  | .declare reach _ names => (names.foldl (fun t d => t.redirect p.scope reach d.name.text) t).tick p.scope
  | .plain _ pieces => scanPieces onText p pieces t

def scanItems (p : Place) (items : List Item) (t : Table) : Table :=
  items.foldl (fun t i => scanSmall onText p i.stmt t) t

def scanDecorators (p : Place) (ds : List Decorator) (t : Table) : Table :=
  ds.foldl (fun t d => scanExpr onText p d.expr t) t

def scanWithItem (p : Place) (w : WithItem) (t : Table) : Table :=
  let t := scanExpr onText p w.value t
  (w.asTarget.elim t fun a => scanExpr onText p.target a.target t).tick p.scope

def scanHeader (p : Place) (h : Header) (t : Table) : Table :=
  match h with
  | .word _ => t
  | .test _ e => scanExpr onText p e t
  | .handler _ e _ name => (scanName p.target name (scanExpr onText p e t)).tick p.scope
  | .loop _ target _ iter => scanExpr onText p iter ((scanExpr onText p.target target t).tick p.scope)
  | .context _ items => items.foldl (fun t w => scanWithItem onText p w t) t

mutual

def scanStmt (p : Place) (x : Stmt) (t : Table) : Table :=
  match x with
  | .line l => scanItems onText p l.items t
  | .compound cs => scanClauses p cs t
  | .funcDef h body =>
    let q := p.inside (⟨h.name.site, .function (some h.name.text)⟩ :: p.scope)
    let t := t.assign p.scope h.name.text none
    let t := (scanParams onText p q.scope h.params t).tick q.scope
    let t := scanSuite q body t
    let t := scanDecorators onText p h.decorators t
    (h.returns.elim t fun a => scanExpr onText p.hint a.expr t).tick p.scope
  | .classDef h body =>
    let q := p.inside (⟨h.name.site, .cls h.name.text⟩ :: p.scope)
    let t := t.assign p.scope h.name.text none
    let t := scanDecorators onText p h.decorators t
    let t := h.args.elim t fun a => a.args.foldl (fun t x => scanExpr onText p x.value t) t
    (scanSuite q body t).tick p.scope

def scanClause (p : Place) (c : Clause) (t : Table) : Table :=
  match c with
  | ⟨head, body⟩ => scanSuite p body (scanHeader onText p head.header t)

def scanClauses (p : Place) (cs : List Clause) (t : Table) : Table :=
  match cs with
  | [] => t
  | c :: cs => scanClauses p cs (scanClause p c t)

def scanSuite (p : Place) (x : Suite) (t : Table) : Table :=
  match x with
  | .inline _ items _ => scanItems onText p items t
  | .block _ _ body _ => scanStmts p body t

def scanStmts (p : Place) (ss : List Stmt) (t : Table) : Table :=
  match ss with
  | [] => t
  | x :: ss => scanStmts p ss (scanStmt p x t)

end

end

/-- Scans the text of a type hint and the strings inside it that are type hints, nested up to `depth` deep. A text that does not
parse is passed over. -/
def scanText (depth : Nat) (p : Place) (text : String) (t : Table) : Table :=
  match depth with
  | 0 => t
  | n + 1 =>
    match Module.parseFrom? t.fresh text with
    | none => t
    | some m => scanStmts (scanText n) { p with store := false, quoted := true } m.body { t with fresh := m.sites }

/-- Scans the text of a type hint. Strings inside it are shorter, so they are not nested deeper than it is long. -/
def scanHintText (p : Place) (text : String) (t : Table) : Table := scanText (text.length + 1) p text t

/-- The table of a module. -/
def Module.scan (m : Module) : Except ResolveError Table :=
  let t := scanStmts scanHintText .top m.body (.empty m.sites)
  match t.error with
  | some e => .error e
  | none => .ok t

/-- The qualified names of an expression where it stands in the module; none if the scan did not come to it. -/
def Table.qualifiedNamesOf (t : Table) (e : Expr) : List String :=
  match e.base? with
  | some n =>
    match t.sites.lookup n.site with
    | some s => t.namesOf s e
    | none => []
  | none => []

end AttrsUpgrade
