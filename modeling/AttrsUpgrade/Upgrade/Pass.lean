import AttrsUpgrade.Scope.Scan
import AttrsUpgrade.Upgrade.Decorator
/-!
# The upgrade of classes

One pass over the tree turns `attr.s` decorators into `define` and fields made by `attr.ib` into annotated declarations. A
class that holds an `attr.ib` call without type is put back as it was, and its name is noted for a warning.

The pass carries a `State` from statement to statement and, in a session, from module to module. When it fails, the state
stays as it was at that moment.
-/

namespace AttrsUpgrade

/-- What the pass carries along. -/
structure State where
  /-- An `attr.ib` call without type has been seen since a class was entered last. -/
  untyped : Bool
  /-- The class entered last. -/
  className : Option String
  /-- An annotated assignment is being visited, where calls need no type. -/
  inAnnotated : Bool
  /-- The names that have a validator or default method in the class entered last. -/
  decorated : List String
  /-- A class is being visited. -/
  inClass : Bool
  /-- The classes warned about. -/
  skipped : List String
deriving DecidableEq, Repr

def State.fresh : State := ⟨false, none, false, [], false, []⟩

/-- What the pass knows about the names of a module. -/
structure Resolver where
  /-- Whether a call makes a field. -/
  isField : Call → Bool
  /-- Whether a decorator declares a class with fields. -/
  isClassDecorator : Expr → Bool
  /-- Where the module imports `field` from. -/
  fieldSource : FieldSource

/-- The qualified names of what makes a field. -/
def fieldMakers : List String := ["attr.ib", "attrs.ib", "attr.attrib", "attrs.attrib"]

/-- The qualified names of the decorators of the old style. -/
def classDecorators : List String := ["attr.s", "attrs.s", "attr.attrs"]

def Table.resolver (t : Table) (m : Module) : Resolver where
  isField c := (t.qualifiedNamesOf c.func).any fieldMakers.contains
  isClassDecorator e := (t.qualifiedNamesOf e).any classDecorators.contains
  fieldSource := m.fieldSource

/-- The text of a warning. -/
def warning (className : String) : String :=
  "Warning: Skipping class " ++ className ++ " because it contains attr.ib() or attrib() without type hints\n"

/-! ## Small statements -/

/-- The parts of a function's header after its decorators. -/
def FuncHead.rest (h : FuncHead) : List Part :=
  h.params.flatMap Param.parts ++ (h.returns.map fun a => Part.hint a.expr).toList

/-- The parts of a class's header after its decorators. -/
def ClassHead.rest (h : ClassHead) : List Part := (h.args.map fun a => a.args.flatMap Arg.parts).getD []

section
variable (r : Resolver)

/-- Whether a call makes a field without saying its type. -/
def Resolver.isUntyped (c : Call) : Bool := r.isField c && !(c.args.any fun a => a.keyword? = some "type")

/-- The call that an expression is, if it makes a field. -/
def Resolver.fieldCall? (e : Expr) : Option Call := e.call?.filter r.isField

/-- The state after calls have been seen. -/
def State.see (calls : List Call) (s : State) : State :=
  if s.inClass && !s.inAnnotated && calls.any r.isUntyped then { s with untyped := true } else s

/-- The state after what is inside a small statement has been seen. -/
def State.seeSmall (x : Small) (s : State) : State :=
  match x with
  | .annAssign _ _ _ => { s with inAnnotated := false }
  | x => s.see r (Part.calls (.small x))

/-- Whether the name assigned to has a method attached to it. -/
def State.forces (s : State) (target : Expr) : Bool := target.name?.any s.decorated.contains

/-- What takes the place of a small statement, if it does not stay. An assignment is looked at only inside a class, an
annotated one everywhere. -/
def upgradeSmall? (s : State) (x : Small) : Except ArgOrderError (Option Small) :=
  match x with
  | .annAssign target hint (some a) =>
    match s.untyped, r.fieldCall? a.value with
    | false, some c => ((FieldArgs.parse c.args).build target (some hint) (s.forces target) r.fieldSource).map some
    | _, _ => .ok none
  | .assign (t :: _) value =>
    match s.inClass && !s.untyped, r.fieldCall? value with
    | true, some c =>
      let f := FieldArgs.parse (withoutKeyword "type" c.args)
      (f.build t.target ((typeArg? c.args).map Hint.ofExpr) (s.forces t.target) r.fieldSource).map some
    | _, _ => .ok none
  | _ => .ok none

/-! ## The pass -/

/-- A step of the pass: it changes the state, and gives a result or fails. -/
abbrev Pass (α : Type) := ExceptT ArgOrderError (StateM State) α

def Pass.ofExcept {α : Type} (x : Except ArgOrderError α) : Pass α := ExceptT.mk (pure x)

def see (parts : List Part) : Pass Unit := modify (State.see r (parts.flatMap Part.calls))

/-- A statement that stays keeps its semicolon; a new one has none. -/
def visitItem (i : Item) : Pass Item := do
  modify (State.seeSmall r i.stmt)
  match ← Pass.ofExcept (upgradeSmall? r (← get) i.stmt) with
  | some x => return ⟨x, none⟩
  | none => return i

def visitItems : List Item → Pass (List Item)
  | [] => return []
  | i :: is => return (← visitItem r i) :: (← visitItems is)

def visitDecorator (d : Decorator) : Pass Decorator := do
  see r [.decorator false d]
  let s ← get
  if s.inClass && !s.untyped && r.isClassDecorator d.expr then Pass.ofExcept d.upgrade
  else return d

def visitDecorators : List Decorator → Pass (List Decorator)
  | [] => return []
  | d :: ds => return (← visitDecorator r d) :: (← visitDecorators ds)

/-- The state on entering a class. -/
def State.enter (name : String) (decorated : List String) (s : State) : State :=
  { s with untyped := false, className := some name, decorated := decorated, inClass := true }

/-- The state on leaving a class; `outside` tells whether the class itself was inside one. -/
def State.leave (outside : Bool) (s : State) : State :=
  { s with inClass := outside, skipped := if s.untyped then s.skipped ++ s.className.toList else s.skipped }

mutual

def visitStmt : Stmt → Pass Stmt
  | .line l => return .line { l with items := ← visitItems r l.items }
  | .compound cs => return .compound (← visitClauses cs)
  | .funcDef h body => do
    let decorators ← visitDecorators r h.decorators
    see r h.rest
    return .funcDef { h with decorators } (← visitSuite body)
  | .classDef h body => do
    let outside := (← get).inClass
    modify (State.enter h.name.text (decoratedNames methodDecorators (h.parts ++ body.parts)))
    let decorators ← visitDecorators r h.decorators
    see r h.rest
    let new ← visitSuite body
    let s ← get
    set (s.leave outside)
    return if s.untyped then .classDef h body else .classDef { h with decorators } new

def visitClause : Clause → Pass Clause
  | ⟨head, body⟩ => do
    see r head.header.parts
    return ⟨head, ← visitSuite body⟩

def visitClauses : List Clause → Pass (List Clause)
  | [] => return []
  | c :: cs => return (← visitClause c) :: (← visitClauses cs)

def visitSuite : Suite → Pass Suite
  | .inline opening items trailing => return .inline opening (← visitItems r items) trailing
  | .block opening indent body footer => return .block opening indent (← visitStmts body) footer

def visitStmts : List Stmt → Pass (List Stmt)
  | [] => return []
  | s :: ss => return (← visitStmt s) :: (← visitStmts ss)

end

def visitModule (m : Module) : Pass Module := return { m with body := ← visitStmts r m.body }

end

end AttrsUpgrade
