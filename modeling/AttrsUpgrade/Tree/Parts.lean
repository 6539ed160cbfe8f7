import AttrsUpgrade.Tree.Walk
/-!
# The parts of statements

`Stmt.parts` lists what a statement is made of, blocks included, in source order: small statements, the expressions of
headers, annotations, decorators and bound names. Everything that is gathered from a whole module is gathered from this
list.
-/

namespace AttrsUpgrade

/-- A part of a statement. -/
inductive Part where
  | small (s : Small)
  /-- An expression of a header, an argument of a class or the default of a parameter. -/
  | value (e : Expr)
  | hint (e : Expr)
  | decorator (onFunction : Bool) (d : Decorator)
  /-- A name that a definition or handler binds, or the keyword of a class argument. -/
  | bound (n : Name)

def Piece.expr? : Piece → Option Expr
  | .text _ => none
  | .expr e => some e

def Param.parts : Param → List Part
  | .star _ => []
  | .slash _ => []
  | .named _ name hint value _ =>
    .bound name :: (hint.filterMap Piece.expr?).map .hint ++ (value.filterMap Piece.expr?).map .value

def WithItem.parts (w : WithItem) : List Part := .value w.value :: (w.asTarget.map fun a => Part.value a.target).toList

def Header.parts : Header → List Part
  | .word _ => []
  | .test _ e => [.value e]
  | .handler _ e _ name => [.value e, .bound name]
  | .loop _ target _ iter => [.value target, .value iter]
  | .context _ items => items.flatMap WithItem.parts

/-- The keyword of an argument. -/
def ArgKind.keyword? : ArgKind → Option Name
  | .keyword name _ => some name
  | _ => none

def Arg.parts (a : Arg) : List Part := (a.kind.keyword?.map Part.bound).toList ++ [.value a.value]

def FuncHead.parts (h : FuncHead) : List Part :=
  h.decorators.map (.decorator true) ++ .bound h.name :: h.params.flatMap Param.parts ++
    (h.returns.map fun a => Part.hint a.expr).toList

def ClassHead.parts (h : ClassHead) : List Part :=
  h.decorators.map (.decorator false) ++ .bound h.name :: (h.args.map fun a => a.args.flatMap Arg.parts).getD []

mutual

def Stmt.parts : Stmt → List Part
  | .line l => l.items.map fun i => .small i.stmt
  | .compound cs => clauseParts cs
  | .funcDef head body => head.parts ++ body.parts
  | .classDef head body => head.parts ++ body.parts

def Clause.parts : Clause → List Part
  | ⟨head, body⟩ => head.header.parts ++ body.parts

def clauseParts : List Clause → List Part
  | [] => []
  | c :: cs => c.parts ++ clauseParts cs

def Suite.parts : Suite → List Part
  | .inline _ items _ => items.map fun i => .small i.stmt
  | .block _ _ body _ => stmtParts body

def stmtParts : List Stmt → List Part
  | [] => []
  | s :: ss => s.parts ++ stmtParts ss

end

def Module.parts (m : Module) : List Part := stmtParts m.body

/-! ## Expressions and calls -/

/-- The expressions of a small statement in source order, each with whether it is an annotation. -/
def Small.exprs : Small → List (Bool × Expr)
  | .expr e => [(false, e)]
  | .assign targets value => targets.map (fun t => (false, t.target)) ++ [(false, value)]
  | .annAssign target hint value =>
    [(false, target), (true, hint.expr)] ++ (value.map fun a => (false, a.value)).toList
  | .augAssign target _ value => [(false, target), (false, value)]
  | .importNames _ _ => []
  | .importFrom _ => []
  | .declare _ _ _ => []
  | .plain _ pieces => (pieces.filterMap Piece.expr?).map fun e => (false, e)

def Part.exprs : Part → List (Bool × Expr)
  | .small s => s.exprs
  | .value e => [(false, e)]
  | .hint e => [(true, e)]
  | .decorator _ d => [(false, d.expr)]
  | .bound _ => []

/-- A call: what is called, and with which arguments. -/
structure Call where
  func : Expr
  args : List Arg
deriving Inhabited

/-- The call that an expression is, parentheses apart. -/
def Expr.call? (e : Expr) : Option Call :=
  match e.bare with
  | .call f _ args _ => some ⟨f, args⟩
  | _ => none

/-- The name that an expression is, parentheses apart. -/
def Expr.name? (e : Expr) : Option String :=
  match e.bare with
  | .name n => some n.text
  | _ => none

/-- All calls in an expression, an outer one before those inside it. -/
def Expr.calls (e : Expr) : List Call :=
  e.walk fun
    | .call f _ args _ => ([⟨f, args⟩], true)
    | _ => ([], true)

def Part.calls (p : Part) : List Call := p.exprs.flatMap fun e => e.2.calls

def Module.calls (m : Module) : List Call := m.parts.flatMap Part.calls

def Part.decorator? : Part → Option Decorator
  | .decorator _ d => some d
  | _ => none

def Module.decorators (m : Module) : List Decorator := m.parts.filterMap Part.decorator?

/-- The name of an argument's keyword. -/
def Arg.keyword? (a : Arg) : Option String := a.kind.keyword?.map Name.text

/-! ## Dotted names -/

/-- The dotted path that an expression begins with; calls and subscripts on the way are passed over, and a part without a
name reads `None`. -/
def Expr.fullName? : Expr → Option String
  | .name n => some n.text
  | .attribute v _ a => some (v.fullName?.getD "None" ++ "." ++ a.text)
  | .call f _ _ _ => f.fullName?
  | .subscript v _ _ _ => v.fullName?
  | .paren _ e _ => e.fullName?
  | _ => none

/-- The name that the dotted path of an expression begins with. -/
def Expr.base? : Expr → Option Name
  | .name n => some n
  | .attribute v _ _ => v.base?
  | .call f _ _ _ => f.base?
  | .subscript v _ _ _ => v.base?
  | .paren _ e _ => e.base?
  | _ => none

/-- Whether the expression is a name or an attribute access. -/
def Expr.isDotted (e : Expr) : Bool :=
  match e.bare with
  | .name _ => true
  | .attribute _ _ _ => true
  | _ => false

/-- The dotted paths that an attribute access goes through, longest first. A call is passed over and restarts the path;
anything else but names and attributes leaves none. -/
def Expr.dottedNames : Expr → List String
  | .name n => [n.text]
  | .paren _ e _ => e.dottedNames
  | .call f _ _ _ => f.dottedNames
  | .attribute v _ a =>
    match v.bare with
    | .call f _ _ _ => if f.isDotted then v.dottedNames else []
    | .name _ | .attribute _ _ _ =>
      match v.dottedNames with
      | [] => []
      | n :: ns => (n ++ "." ++ a.text) :: n :: ns
    | _ => []
  | _ => []

end AttrsUpgrade
