import AttrsUpgrade.Upgrade.Pass
/-!
# Statements, clauses and suites as one type

The tree of statements is built from kinds of things that hold each other. `Node` puts them side by side, so that a fact about
all of them is one statement, proved by one induction (`Node.induct`).

What a node holds is listed in the order in which the pass comes to it: `Node.events` lists the calls it sees and the
classes it enters, `Node.classes` the classes in the order in which it leaves them, `Node.ownCalls` and `Node.assignments`
what does not stand in a class further inside.
-/

namespace AttrsUpgrade

inductive Node where
  | stmt (x : Stmt)
  | stmts (xs : List Stmt)
  | clauses (cs : List Clause)
  | suite (b : Suite)

/-! ## Induction -/

/-- What holds of a node if it holds of the nodes in it. -/
structure Node.Inductive (P : Node → Prop) : Prop where
  line : ∀ l, P (.stmt (.line l))
  compound : ∀ cs, P (.clauses cs) → P (.stmt (.compound cs))
  funcDef : ∀ h b, P (.suite b) → P (.stmt (.funcDef h b))
  classDef : ∀ h b, P (.suite b) → P (.stmt (.classDef h b))
  inline : ∀ o is t, P (.suite (.inline o is t))
  block : ∀ o i xs f, P (.stmts xs) → P (.suite (.block o i xs f))
  noClause : P (.clauses [])
  clause : ∀ head b cs, P (.suite b) → P (.clauses cs) → P (.clauses (⟨head, b⟩ :: cs))
  noStmt : P (.stmts [])
  next : ∀ x xs, P (.stmt x) → P (.stmts xs) → P (.stmts (x :: xs))

section
variable {P : Node → Prop} (ind : Node.Inductive P)
include ind

mutual

theorem Node.Inductive.stmt : ∀ x, P (.stmt x)
  | .line l => ind.line l
  | .compound cs => ind.compound cs (Node.Inductive.clauses cs)
  | .funcDef h b => ind.funcDef h b (Node.Inductive.suite b)
  | .classDef h b => ind.classDef h b (Node.Inductive.suite b)

theorem Node.Inductive.suite : ∀ b, P (.suite b)
  | .inline o is t => ind.inline o is t
  | .block o i xs f => ind.block o i xs f (Node.Inductive.stmts xs)

theorem Node.Inductive.clauses : ∀ cs, P (.clauses cs)
  | [] => ind.noClause
  | ⟨head, b⟩ :: cs => ind.clause head b cs (Node.Inductive.suite b) (Node.Inductive.clauses cs)

theorem Node.Inductive.stmts : ∀ xs, P (.stmts xs)
  | [] => ind.noStmt
  | x :: xs => ind.next x xs (Node.Inductive.stmt x) (Node.Inductive.stmts xs)

end

end

@[elab_as_elim]
theorem Node.induct {P : Node → Prop}
    (line : ∀ l, P (.stmt (.line l)))
    (compound : ∀ cs, P (.clauses cs) → P (.stmt (.compound cs)))
    (funcDef : ∀ h b, P (.suite b) → P (.stmt (.funcDef h b)))
    (classDef : ∀ h b, P (.suite b) → P (.stmt (.classDef h b)))
    (inline : ∀ o is t, P (.suite (.inline o is t)))
    (block : ∀ o i xs f, P (.stmts xs) → P (.suite (.block o i xs f)))
    (noClause : P (.clauses []))
    (clause : ∀ head b cs, P (.suite b) → P (.clauses cs) → P (.clauses (⟨head, b⟩ :: cs)))
    (noStmt : P (.stmts []))
    (next : ∀ x xs, P (.stmt x) → P (.stmts xs) → P (.stmts (x :: xs))) (n : Node) : P n := by
  have ind : Node.Inductive P := ⟨line, compound, funcDef, classDef, inline, block, noClause, clause, noStmt, next⟩
  cases n with
  | stmt x => exact ind.stmt x
  | stmts xs => exact ind.stmts xs
  | clauses cs => exact ind.clauses cs
  | suite b => exact ind.suite b

/-! ## What the pass comes to -/

/-- A class statement. -/
structure ClassDef where
  head : ClassHead
  body : Suite

def ClassDef.stmt (c : ClassDef) : Stmt := .classDef c.head c.body

def ClassDef.name (c : ClassDef) : String := c.head.name.text

/-- The names that have a validator or default method in the class. -/
def ClassDef.decorated (c : ClassDef) : List String := decoratedNames methodDecorators (c.head.parts ++ c.body.parts)

inductive Event where
  | enter (c : ClassDef)
  /-- A call, and whether it stands in an annotated assignment. -/
  | call (annotated : Bool) (c : Call)

def Small.isAnnAssign : Small → Bool
  | .annAssign _ _ _ => true
  | _ => false

def Small.events (x : Small) : List Event := (Part.calls (.small x)).map (.call x.isAnnAssign)

/-- The calls outside of any statement. -/
def partEvents (ps : List Part) : List Event := (ps.flatMap Part.calls).map (.call false)

def decoratorEvents (ds : List Decorator) : List Event := partEvents (ds.map (.decorator false))

def itemEvents (is : List Item) : List Event := is.flatMap fun i => i.stmt.events

mutual

def Stmt.events : Stmt → List Event
  | .line l => itemEvents l.items
  | .compound cs => clauseEvents cs
  | .funcDef h b => decoratorEvents h.decorators ++ partEvents h.rest ++ b.events
  | .classDef h b => .enter ⟨h, b⟩ :: (decoratorEvents h.decorators ++ partEvents h.rest ++ b.events)

def clauseEvents : List Clause → List Event
  | [] => []
  | ⟨head, b⟩ :: cs => partEvents head.header.parts ++ b.events ++ clauseEvents cs

def Suite.events : Suite → List Event
  | .inline _ is _ => itemEvents is
  | .block _ _ xs _ => stmtEvents xs

def stmtEvents : List Stmt → List Event
  | [] => []
  | x :: xs => x.events ++ stmtEvents xs

end

def Node.events : Node → List Event
  | .stmt x => x.events
  | .stmts xs => stmtEvents xs
  | .clauses cs => clauseEvents cs
  | .suite b => b.events

def ClassDef.events (c : ClassDef) : List Event := c.stmt.events

mutual

/-- The classes in a statement, itself included, in the order in which they end. -/
def Stmt.classes : Stmt → List ClassDef
  | .line _ => []
  | .compound cs => clauseClasses cs
  | .funcDef _ b => b.classes
  | .classDef h b => b.classes ++ [⟨h, b⟩]

def clauseClasses : List Clause → List ClassDef
  | [] => []
  | ⟨_, b⟩ :: cs => b.classes ++ clauseClasses cs

def Suite.classes : Suite → List ClassDef
  | .inline _ _ _ => []
  | .block _ _ xs _ => stmtClasses xs

def stmtClasses : List Stmt → List ClassDef
  | [] => []
  | x :: xs => x.classes ++ stmtClasses xs

end

def Node.classes : Node → List ClassDef
  | .stmt x => x.classes
  | .stmts xs => stmtClasses xs
  | .clauses cs => clauseClasses cs
  | .suite b => b.classes

def Module.classes (m : Module) : List ClassDef := stmtClasses m.body

/-! ## What stands in no class further inside -/

/-- The calls of a small statement, none if it is an annotated assignment. -/
def Small.openCalls (x : Small) : List Call := if x.isAnnAssign then [] else Part.calls (.small x)

def Small.isAssignment : Small → Bool
  | .assign _ _ => true
  | .annAssign _ _ _ => true
  | _ => false

def itemCalls (is : List Item) : List Call := is.flatMap fun i => i.stmt.openCalls

def itemAssignments (is : List Item) : List Item := is.filter fun i => i.stmt.isAssignment

/-- The calls in the decorators and the header of a definition. -/
def headCalls (ds : List Decorator) (ps : List Part) : List Call :=
  (ds.map (Part.decorator false)).flatMap Part.calls ++ ps.flatMap Part.calls

mutual

/-- The calls outside of annotated assignments and of classes further inside. -/
def Stmt.ownCalls : Stmt → List Call
  | .line l => itemCalls l.items
  | .compound cs => clauseOwnCalls cs
  | .funcDef h b => headCalls h.decorators h.rest ++ b.ownCalls
  | .classDef _ _ => []

def clauseOwnCalls : List Clause → List Call
  | [] => []
  | ⟨head, b⟩ :: cs => head.header.parts.flatMap Part.calls ++ b.ownCalls ++ clauseOwnCalls cs

def Suite.ownCalls : Suite → List Call
  | .inline _ is _ => itemCalls is
  | .block _ _ xs _ => stmtOwnCalls xs

def stmtOwnCalls : List Stmt → List Call
  | [] => []
  | x :: xs => x.ownCalls ++ stmtOwnCalls xs

end

def Node.ownCalls : Node → List Call
  | .stmt x => x.ownCalls
  | .stmts xs => stmtOwnCalls xs
  | .clauses cs => clauseOwnCalls cs
  | .suite b => b.ownCalls

section
variable (deep : Bool)

mutual

/-- The assignments outside of classes further inside, and of functions too unless `deep` is set. -/
def Stmt.assignments : Stmt → List Item
  | .line l => itemAssignments l.items
  | .compound cs => clauseAssignments cs
  | .funcDef _ b => if deep then b.assignments else []
  | .classDef _ _ => []

def clauseAssignments : List Clause → List Item
  | [] => []
  | ⟨_, b⟩ :: cs => b.assignments ++ clauseAssignments cs

def Suite.assignments : Suite → List Item
  | .inline _ is _ => itemAssignments is
  | .block _ _ xs _ => stmtAssignments xs

def stmtAssignments : List Stmt → List Item
  | [] => []
  | x :: xs => x.assignments ++ stmtAssignments xs

end

def Node.assignments : Node → List Item
  | .stmt x => x.assignments deep
  | .stmts xs => stmtAssignments deep xs
  | .clauses cs => clauseAssignments deep cs
  | .suite b => b.assignments deep

end

namespace ClassDef
variable (c : ClassDef)

/-- The calls outside of annotated assignments that no class further inside holds. -/
def ownCalls : List Call := headCalls c.head.decorators c.head.rest ++ c.body.ownCalls

/-- The classes inside the class. -/
def inner : List ClassDef := c.body.classes

/-- The assignments in the body of the class, with those in its functions if `deep` is set. -/
def assignments (deep : Bool) : List Item := c.body.assignments deep

end ClassDef

end AttrsUpgrade
