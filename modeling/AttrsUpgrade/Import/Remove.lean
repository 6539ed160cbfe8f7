import AttrsUpgrade.Import.Export
import AttrsUpgrade.Import.Quoted
/-!
# Removing imports

`Module.removeImports` takes out imports of the old style that nothing uses any more. An import is in use if it is referred
to, exported, or named in a quoted annotation.
-/

namespace AttrsUpgrade

/-! ## What may go -/

/-- The packages that may go as a whole. -/
def removablePackages : List String := ["attr", "attrs"]

/-- The names that may go, by the module they are imported from. -/
def removableNames (source : String) : List String :=
  if source = "attr" then ["attrs", "attrib", "ib", "Factory"]
  else if source = "attrs" then ["define", "Factory", "field"]
  else []

/-- What decides whether an import is in use. -/
structure Usage where
  table : Table
  /-- The exported names and those in quoted annotations. -/
  mentioned : List String

/-- Whether a name imported in a scope is in use. -/
def Usage.inUse (u : Usage) (s : Scope) (name : String) : Bool := u.mentioned.contains name || u.table.importInUse s name

/-- Whether an alias is one of the names and not in use. -/
def Usage.drops (u : Usage) (s : Scope) (names : List String) (a : Alias) : Bool :=
  a.asName.isNone && names.contains a.path && !u.inUse s a.path

/-! ## Names of one import -/

/-- Leaves the blanks after a dropped comma to the comma of an alias; an alias without comma takes the whole comma. -/
def Alias.takeComma (c : Comma) (a : Alias) : Alias :=
  match a.comma with
  | some own => { a with comma := some { own with after := own.after.merge c.after } }
  | none => { a with comma := some c }

/-- Leaves the blanks after a dropped comma to the opening parenthesis. -/
def Parens.takeComma (c : Comma) (p : Parens) : Parens := { p with opening := p.opening.merge c.after }

/-- Leaves a dropped comma to the last alias, if there is one. -/
def passComma (c : Comma) : List Alias → List Alias
  | [] => []
  | [a] => [a.takeComma c]
  | a :: as => a :: passComma c as

/-- The aliases that stay, in order, after those in `front`. -/
def keepAliases (drop : Alias → Bool) (front : List Alias) : List Alias → List Alias
  | [] => front
  | a :: as =>
    if drop a then keepAliases drop ((a.comma.map fun c => passComma c front).getD front) as
    else keepAliases drop (front ++ [a]) as

/-- Takes the comma from the last alias. -/
def dropLastComma : List Alias → List Alias
  | [] => []
  | [a] => [{ a with comma := none }]
  | a :: as => a :: dropLastComma as

/-- The last alias has no comma of its own unless it was the last before. -/
def closeAliases (drop : Alias → Bool) (old new : List Alias) : List Alias :=
  if old.getLast?.any drop then dropLastComma new else new

/-- The parentheses after dropping aliases: the last alias dropped before all that stay leaves its blanks to them. -/
def keepParens (drop : Alias → Bool) (aliases : List Alias) (p : Parens) : Parens :=
  match ((aliases.takeWhile drop).filterMap Alias.comma).getLast? with
  | some c => p.takeComma c
  | none => p

/-- An import without the aliases that are dropped; `none` if nothing stays. -/
def Small.dropAliases (u : Usage) (s : Scope) : Small → Option Small
  | .importNames opening as =>
    let drop := u.drops s removablePackages
    match as.filter fun a => !drop a with
    | [] => none
    | kept => some (.importNames opening (closeAliases drop as kept))
  | .importFrom f =>
    match f.absolute?, f.imported with
    | some source, .names parens as =>
      let drop := u.drops s (removableNames source)
      match keepAliases drop [] as with
      | [] => none
      | kept =>
        let imported := .names (parens.map (keepParens drop as)) (closeAliases drop as kept)
        some (.importFrom { f with imported })
    | _, _ => some (.importFrom f)
  | x => some x

/-! ## All imports -/

def Item.dropAliases (u : Usage) (s : Scope) (i : Item) : Option Item :=
  (i.stmt.dropAliases u s).map fun x => ⟨x, i.semicolon⟩

mutual

/-- A statement without the imports that are dropped; a line with nothing left goes. -/
def Stmt.removeImports (u : Usage) (s : Scope) : Stmt → Option Stmt
  | .line l =>
    match l.items.filterMap (Item.dropAliases u s) with
    | [] => none
    | items => some (.line { l with items })
  | .compound cs => some (.compound (removeFromClauses u s cs))
  | .funcDef h body => some (.funcDef h (body.removeImports u (⟨h.name.site, .function (some h.name.text)⟩ :: s)))
  | .classDef h body => some (.classDef h (body.removeImports u (⟨h.name.site, .cls h.name.text⟩ :: s)))

def Clause.removeImports (u : Usage) (s : Scope) : Clause → Clause
  | ⟨head, body⟩ => ⟨head, body.removeImports u s⟩

def removeFromClauses (u : Usage) (s : Scope) : List Clause → List Clause
  | [] => []
  | c :: cs => c.removeImports u s :: removeFromClauses u s cs

def Suite.removeImports (u : Usage) (s : Scope) : Suite → Suite
  | .inline opening items trailing => .inline opening (items.filterMap (Item.dropAliases u s)) trailing
  | .block opening indent body footer => .block opening indent (removeFromStmts u s body) footer

def removeFromStmts (u : Usage) (s : Scope) : List Stmt → List Stmt
  | [] => []
  | x :: xs =>
    match x.removeImports u s with
    | some x => x :: removeFromStmts u s xs
    | none => removeFromStmts u s xs

end

/-- Why imports cannot be removed. -/
inductive RemoveError where
  | resolve (e : ResolveError)
  | exports (e : ExportError)
  | quoted (e : QuotedError)
deriving DecidableEq, Repr

/-- Removes the imports that may go and are not in use. -/
def Module.removeImports (m : Module) : Except RemoveError Module :=
  match m.scan with
  | .error e => .error (.resolve e)
  | .ok table =>
    match m.exports with
    | .error e => .error (.exports e)
    | .ok exported =>
      match m.quotedNames table with
      | .error e => .error (.quoted e)
      | .ok quoted => .ok { m with body := removeFromStmts ⟨table, exported ++ quoted⟩ [] m.body }

end AttrsUpgrade
