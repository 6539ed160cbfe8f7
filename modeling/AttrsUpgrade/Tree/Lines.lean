import AttrsUpgrade.Tree.Basic
/-!
# Leading lines

The empty lines before a statement, wherever its kind keeps them.
-/

namespace AttrsUpgrade

def Stmt.leading : Stmt → List Span
  | .line l => l.leading
  | .compound [] => []
  | .compound (c :: _) => c.head.leading
  | .funcDef h _ => h.leading
  | .classDef h _ => h.leading

def Stmt.setLeading (lines : List Span) : Stmt → Stmt
  | .line l => .line { l with leading := lines }
  | .compound [] => .compound []
  | .compound (c :: cs) => .compound ({ c with head := { c.head with leading := lines } } :: cs)
  | .funcDef h b => .funcDef { h with leading := lines } b
  | .classDef h b => .classDef { h with leading := lines } b

end AttrsUpgrade
