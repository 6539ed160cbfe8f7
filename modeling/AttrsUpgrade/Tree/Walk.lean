import AttrsUpgrade.Tree.Basic
/-!
# Walking through expressions

`Expr.walk` goes through an expression in source order and collects what `visit` finds at each subexpression. `visit` also
says whether to go on into the subexpression. Calls, names and strings are all gathered this way.
-/

namespace AttrsUpgrade

/-- The expression without the parentheses around it. -/
def Expr.bare : Expr → Expr
  | .paren _ e _ => e.bare
  | e => e

/-- What was found at a subexpression, followed by what lies inside it if that is to be looked at. -/
def found {α : Type} (here : List α × Bool) (inside : List α) : List α :=
  if here.2 then here.1 ++ inside else here.1

section
variable {α : Type} (visit : Expr → List α × Bool)

mutual

/-- What `visit` finds inside an expression. -/
def Expr.walkInside : Expr → List α
  | .name _ => []
  | .literal _ => []
  | .string _ => []
  | .fstring ps => walkPieces ps
  | .concat l _ r => found (visit l) l.walkInside ++ found (visit r) r.walkInside
  | .paren _ e _ => found (visit e) e.walkInside
  | .attribute v _ _ => found (visit v) v.walkInside
  | .call f _ args _ => found (visit f) f.walkInside ++ walkArgs args
  | .subscript v _ ps _ => found (visit v) v.walkInside ++ walkPieces ps
  | .display _ _ ps _ => walkPieces ps
  | .lambda _ _ ps _ body => walkParams ps ++ found (visit body) body.walkInside
  | .comprehension _ _ ps loop inner _ => walkPieces ps ++ loop.walk ++ walkLoops inner
  | .walrus t _ v => found (visit t) t.walkInside ++ found (visit v) v.walkInside
  | .operation ps => walkPieces ps

def Piece.walk : Piece → List α
  | .text _ => []
  | .expr e => found (visit e) e.walkInside

def walkPieces : List Piece → List α
  | [] => []
  | p :: ps => p.walk ++ walkPieces ps

def Arg.walk : Arg → List α
  | ⟨_, v, _, _⟩ => found (visit v) v.walkInside

def walkArgs : List Arg → List α
  | [] => []
  | a :: as => a.walk ++ walkArgs as

def Param.walk : Param → List α
  | .star _ => []
  | .slash _ => []
  | .named _ _ hint value _ => walkPieces hint ++ walkPieces value

def walkParams : List Param → List α
  | [] => []
  | p :: ps => p.walk ++ walkParams ps

def Loop.walk : Loop → List α
  | ⟨_, target, _, iter, conditions⟩ =>
    found (visit target) target.walkInside ++ found (visit iter) iter.walkInside ++ walkPieces conditions

def walkLoops : List Loop → List α
  | [] => []
  | l :: ls => l.walk ++ walkLoops ls

end

/-- What `visit` finds in an expression and, where it says so, inside it. -/
def Expr.walk (e : Expr) : List α := found (visit e) (e.walkInside visit)

end

end AttrsUpgrade
