import AttrsUpgrade.Import.Basic
import AttrsUpgrade.Text.Encoding
import AttrsUpgrade.Text.Literal
/-!
# Scopes

A scope is the list of definitions, lambdas and comprehensions around a place, innermost first; the module itself is the
empty list. A `Table` records what happens to names: assignments and accesses with the time at which they happen, time being
counted for each scope on its own.
-/

namespace AttrsUpgrade

inductive FrameKind where
  /-- A function, or a lambda, which has no name. -/
  | function (name : Option String)
  | cls (name : String)
  | comprehension
deriving DecidableEq, Repr

/-- One scope inside another. The site of the token that opens it tells it from its neighbours. -/
structure Frame where
  site : Nat
  kind : FrameKind
deriving DecidableEq, Repr

abbrev Scope := List Frame

/-- Scopes nested in a class do not see its names. -/
def Frame.isClass (f : Frame) : Bool :=
  match f.kind with
  | .cls _ => true
  | _ => false

def Frame.path (f : Frame) : List String :=
  match f.kind with
  | .function name => [name.getD "None", "<locals>"]
  | .cls name => [name]
  | .comprehension => ["<comprehension>"]

/-- Where the names of a scope belong, outermost part first. -/
def Scope.path (s : Scope) : List String := (s.reverse.map Frame.path).flatten

/-- One name of an import statement: its path with all beginnings, longest first, and the name it is bound to, if another. -/
structure ImportedName where
  beginnings : List String
  renamed : Option String
deriving DecidableEq, Repr

/-- An import statement as name resolution sees it. -/
structure ImportSource where
  origin : String
  names : List ImportedName
deriving DecidableEq, Repr

/-- An assignment to a name; `source` is set if an import makes it. -/
structure Assignment where
  name : String
  scope : Scope
  time : Nat
  source : Option ImportSource
deriving DecidableEq, Repr

/-- A use of a name. `paths` are the dotted paths it may be meant for, longest first. -/
structure Access where
  paths : List String
  scope : Scope
  time : Nat
deriving DecidableEq, Repr

structure Redirect where
  scope : Scope
  name : String
  reach : Reach
deriving DecidableEq, Repr

/-- Why names cannot be resolved. -/
inductive ResolveError where
  /-- A `nonlocal` declaration of the module itself. -/
  | strayNonlocal
  /-- A type hint in a literal that stands for nothing. -/
  | literal (e : Text.LiteralError)
  /-- A type hint in bytes that are no text. -/
  | source (e : Text.SourceError)
deriving DecidableEq, Repr

def ResolveError.message : ResolveError → String
  | .strayNonlocal => "nonlocal declaration not allowed at module level"
  | .literal e => e.message
  | .source e => e.message

structure Table where
  assignments : List Assignment
  accesses : List Access
  /-- The `global` and `nonlocal` declarations. -/
  redirects : List Redirect
  /-- One entry for each moment at which the time of a scope moved on. -/
  ticks : List Scope
  /-- The scope that each name stands in, by the name's site. -/
  sites : List (Nat × Scope)
  /-- The first site that no token has. -/
  fresh : Nat
  /-- The first thing that went wrong. -/
  error : Option ResolveError

namespace Table

def empty (fresh : Nat) : Table := ⟨[], [], [], [], [], fresh, none⟩

/-- Notes that something went wrong, unless something did before. -/
def fail (t : Table) (e : ResolveError) : Table := { t with error := t.error.or (some e) }

def clock (t : Table) (s : Scope) : Nat := t.ticks.count s

def tick (t : Table) (s : Scope) : Table := { t with ticks := s :: t.ticks }

def reach? (t : Table) (s : Scope) (name : String) : Option Reach :=
  (t.redirects.find? fun r => r.scope = s ∧ r.name = name).map Redirect.reach

/-- The assignments to a name made in the scope itself. -/
def own (t : Table) (s : Scope) (name : String) : List Assignment :=
  t.assignments.filter fun a => a.name = name ∧ a.scope = s

/-- The assignments that a name may mean in a scope. `nested` tells that the look-up comes from a scope inside it, which sees
nothing of a class. -/
def lookupFrom (t : Table) (name : String) (nested : Bool) : Scope → List Assignment
  | [] => t.own [] name
  | f :: fs =>
    if nested && f.isClass then lookupFrom t name true fs
    else
      match t.reach? (f :: fs) name with
      | some .global => t.own [] name
      | some .nonlocal => lookupFrom t name true fs
      | none => if (t.own (f :: fs) name).isEmpty then lookupFrom t name true fs else t.own (f :: fs) name

/-- The assignments that a name may mean in a scope. -/
def lookup (t : Table) (s : Scope) (name : String) : List Assignment := t.lookupFrom name false s

/-- The scope that an assignment made in `s` goes to. One declared `nonlocal` goes to the scope around, whatever that one
declares itself. -/
def home (t : Table) (name : String) (s : Scope) : Scope :=
  match t.reach? s name with
  | some .global => []
  | some .nonlocal => s.drop 1 |>.dropWhile Frame.isClass
  | none => s

def assign (t : Table) (s : Scope) (name : String) (source : Option ImportSource) : Table :=
  let home := t.home name s
  { t with assignments := ⟨name, home, t.clock home, source⟩ :: t.assignments }

def access (t : Table) (s : Scope) (paths : List String) : Table :=
  { t with accesses := ⟨paths, s, t.clock s⟩ :: t.accesses }

def place (t : Table) (s : Scope) (site : Nat) : Table := { t with sites := (site, s) :: t.sites }

/-- Notes a `global` or `nonlocal` declaration; at module level the first means nothing and the second is an error. -/
def redirect (t : Table) (s : Scope) (reach : Reach) (name : String) : Table :=
  match s, reach with
  | [], .global => t
  | [], .nonlocal => t.fail .strayNonlocal
  | s, reach => { t with redirects := ⟨s, name, reach⟩ :: t.redirects }

end Table

/-! ## Qualified names -/

/-- The beginnings of a dotted path, shortest first, after `front`, which is in reverse. -/
def pathBeginningsFrom (front : List Char) : List Char → List String
  | [] => [String.ofList front.reverse]
  | c :: cs =>
    if c = '.' then String.ofList front.reverse :: pathBeginningsFrom (c :: front) cs
    else pathBeginningsFrom (c :: front) cs

/-- The beginnings of a dotted path, longest first. -/
def pathBeginnings (path : String) : List String := (pathBeginningsFrom [] path.toList).reverse

/-- The qualified name that an imported name gives to a path beginning with it. -/
def ImportedName.qualify? (origin : String) (n : ImportedName) (path : String) : Option String :=
  (n.beginnings.find? fun b => (n.renamed.getD b).toList.isPrefixOf path.toList).map fun b =>
    let rest := (path.toList.drop (n.renamed.getD b).length).dropWhile (· == '.')
    let base := if origin.isEmpty then b else if origin.toList.getLast? = some '.' then origin ++ b else origin ++ "." ++ b
    if rest.isEmpty then base else base ++ "." ++ String.ofList rest

def Assignment.qualify (a : Assignment) (path : String) : List String :=
  match a.source with
  | some i => i.names.filterMap fun n => n.qualify? i.origin path
  | none => [joinWith "." (a.scope.path ++ [path])]

/-- The qualified names of a dotted path in a scope: those of the longest beginning that is assigned to. -/
def Table.qualifiedNames (t : Table) (s : Scope) (path : String) : List String :=
  match (pathBeginnings path).find? fun b => !(t.lookup s b).isEmpty with
  | some b => (t.lookup s b).flatMap fun a => a.qualify path
  | none => []

/-! ## References -/

/-- The name that an access is to: the longest of its paths that is assigned to. -/
def Table.accessed (t : Table) (x : Access) : String :=
  ((x.paths.find? fun p => !(t.lookup x.scope p).isEmpty).or x.paths.getLast?).getD ""

/-- Whether an assignment comes before an access, as far as the access can tell. -/
def Assignment.precedes (a : Assignment) (x : Access) : Bool := a.scope ≠ x.scope || a.time < x.time

/-- The assignments that an access refers to. What is assigned only later in its own scope lets it through to the scope
around. -/
def Table.references (t : Table) (x : Access) : List Assignment :=
  let name := t.accessed x
  let found := t.lookup x.scope name
  let around :=
    match x.scope with
    | [] => []
    | _ :: outer => if found.all fun a => a.precedes x then [] else t.lookup outer name
  found.filter (fun a => a.precedes x) ++ around

def Table.isReferenced (t : Table) (a : Assignment) : Bool := t.accesses.any fun x => (t.references x).contains a

/-- Whether some import of the name that the scope sees is referred to. -/
def Table.importInUse (t : Table) (s : Scope) (name : String) : Bool :=
  (t.lookup s name).any fun a => a.source.isSome && t.isReferenced a

end AttrsUpgrade
