import AttrsUpgrade.Import.Basic
import AttrsUpgrade.Text.Sorted
import AttrsUpgrade.Tree.Lines
/-!
# Adding imports

`Module.addImports` makes sure that a module imports what it needs of `attrs`. Names go into the first import from `attrs`
that is there; otherwise new lines follow the imports at the top of the module.
-/

namespace AttrsUpgrade

/-- The package that everything new comes from. -/
def packageName : String := "attrs"

/-- An import that a module needs: the package itself or something in it. -/
inductive Need where
  | package
  | object (name : String)
deriving DecidableEq, Repr

def Need.object? : Need → Option String
  | .package => none
  | .object name => some name

/-- What a module does not import yet. -/
structure Missing where
  package : Bool
  /-- The names in order. -/
  objects : List String
deriving DecidableEq, Repr

/-- What is needed beyond the imports that are there. A star import brings all names. -/
def Gathered.missing (g : Gathered) (needs : List Need) : Missing where
  package := needs.contains .package && !g.modules.contains packageName
  objects :=
    let present := g.names packageName
    if present.contains "*" then []
    else (Text.sorted (needs.filterMap Need.object?)).filter fun n => !present.contains n

/-- A name as it is imported anew. -/
def Alias.ofName (name : String) : Alias := ⟨⟨name, []⟩, none, none⟩

/-! ## Names for an import that is there -/

/-- Puts names in front of those of an import from the package; what is left to add comes second. -/
def Small.receive (names : List Alias) : Small → Small × List Alias
  | .importFrom f =>
    match f.imported with
    | .star => (.importFrom f, names)
    | .names parens as =>
      if f.absolute? = some packageName then (.importFrom { f with imported := .names parens (names ++ as) }, [])
      else (.importFrom f, names)
  | x => (x, names)

def receiveItems (names : List Alias) : List Item → List Item × List Alias
  | [] => ([], names)
  | i :: is =>
    let (x, names) := i.stmt.receive names
    let (is, names) := receiveItems names is
    (⟨x, i.semicolon⟩ :: is, names)

mutual

/-- Gives names to the first import from the package in a statement. -/
def Stmt.receive (names : List Alias) : Stmt → Stmt × List Alias
  | .line l =>
    let (items, names) := receiveItems names l.items
    (.line { l with items }, names)
  | .compound cs =>
    let (cs, names) := receiveClauses names cs
    (.compound cs, names)
  | .funcDef h body =>
    let (body, names) := body.receive names
    (.funcDef h body, names)
  | .classDef h body =>
    let (body, names) := body.receive names
    (.classDef h body, names)

def Clause.receive (names : List Alias) : Clause → Clause × List Alias
  | ⟨head, body⟩ =>
    let (body, names) := body.receive names
    (⟨head, body⟩, names)

def receiveClauses (names : List Alias) : List Clause → List Clause × List Alias
  | [] => ([], names)
  | c :: cs =>
    let (c, names) := c.receive names
    let (cs, names) := receiveClauses names cs
    (c :: cs, names)

def Suite.receive (names : List Alias) : Suite → Suite × List Alias
  | .inline opening items trailing =>
    let (items, names) := receiveItems names items
    (.inline opening items trailing, names)
  | .block opening indent body footer =>
    let (body, names) := receiveStmts names body
    (.block opening indent body footer, names)

def receiveStmts (names : List Alias) : List Stmt → List Stmt × List Alias
  | [] => ([], names)
  | s :: ss =>
    let (s, names) := s.receive names
    let (ss, names) := receiveStmts names ss
    (s :: ss, names)

end

/-! ## New lines -/

/-- A line that is one string. -/
def Stmt.isString : Stmt → Bool
  | .line ⟨_, [⟨.expr e, _⟩], _⟩ =>
    match e.bare with
    | .string _ => true
    | _ => false
  | _ => false

/-- A line that assigns to `__strict__` alone. -/
def Stmt.isStrict : Stmt → Bool
  | .line ⟨_, [⟨.assign [t] _, _⟩], _⟩ => t.target.name? = some "__strict__"
  | _ => false

/-- Whether a statement is a line with an import in it. -/
def Stmt.hasImport : Stmt → Bool
  | .line l => l.items.any fun i => i.stmt.isImport
  | _ => false

/-- The number of statements that stay before new imports, as far as the statements from the `i`-th on change it. A string
line sends new imports back to the place after the first statement. -/
def importPlaceFrom (i place : Nat) : List Stmt → Nat
  | [] => place
  | s :: ss => importPlaceFrom (i + 1) (if s.isString then 1 else if s.hasImport then i + 1 else place) ss

/-- The number of statements that stay before new imports: all up to the last import at the top level. -/
def importPlace (body : List Stmt) : Nat := importPlaceFrom 0 (if body.head?.any Stmt.isStrict then 1 else 0) body

/-- Makes sure that statements begin with an empty line. -/
def setApart : List Stmt → List Stmt
  | [] => []
  | s :: ss =>
    match s.leading with
    | [] => s.setLeading [[.newline]] :: ss
    | l :: ls => if l.hasComment then s.setLeading ([.newline] :: l :: ls) :: ss else s :: ss

/-- A line of its own for an import. -/
def Stmt.ofImport (x : Small) : Stmt := .line ⟨[], [⟨x, none⟩], [.newline]⟩

/-- The lines that import what is missing. -/
def newImports (package : Bool) (names : List Alias) : List Stmt :=
  let whole := if package then [Stmt.ofImport (.importNames "import " [.ofName packageName])] else []
  let objects :=
    if names.isEmpty then []
    else [Stmt.ofImport (.importFrom ⟨"from ", "", some ⟨packageName, []⟩, " import ", .names none names⟩)]
  whole ++ objects

/-- Why imports cannot be added: new lines are read with the indentation of the module, which has to be of spaces and tabs. -/
inductive AddError where
  | badIndent (indent : String)
deriving DecidableEq, Repr

/-- A character of an indentation as it is quoted in a message. -/
def quotedBlank (c : Char) : String := if c = '\t' then "\\t" else if c = '\x0c' then "\\x0c" else String.singleton c

def AddError.message : AddError → String
  | .badIndent indent =>
    "Got an invalid value for default_indent: '" ++ joinAll (indent.toList.map quotedBlank) ++ "'"

/-- Whether a module's indentation is of spaces and tabs only. -/
def isPlainIndent (indent : String) : Bool := indent.toList.all fun c => c == ' ' || c == '\t'

/-- Adds the imports that are needed and not there. -/
def Module.addImports (needs : List Need) (m : Module) : Except AddError Module :=
  let missing := m.imports.missing needs
  let (body, names) := receiveStmts (missing.objects.map Alias.ofName) m.body
  let new := newImports missing.package names
  if new.isEmpty then .ok { m with body }
  else if isPlainIndent m.indent then
    let place := importPlace body
    .ok { m with body := body.take place ++ new ++ setApart (body.drop place) }
  else .error (.badIndent m.indent)

end AttrsUpgrade
