import AttrsUpgrade.Scope.Scan
/-!
# Names in quoted annotations

A string inside an annotation, or inside a call of `typing.TypeVar`, is a type written as text. `Module.quotedNames` reads
all of them and lists the names they hold; it fails if one is no source text.
-/

namespace AttrsUpgrade

/-! ## Quoted annotations -/

/-- Why a type written as text cannot be read. -/
inductive QuotedError where
  | literal (e : Text.LiteralError)
  | source (e : Text.SourceError)
  /-- The text is no module. -/
  | unreadable
deriving DecidableEq, Repr

/-- The value that a string counts for. -/
def Expr.quoted (e : Expr) : List LiteralResult := e.literalValue?.toList

/-- Looks for strings where all of them are types. Only calls that `inside` allows are entered. -/
def visitQuoted (inside : Expr → Bool) : Expr → List LiteralResult × Bool
  | .string s => ((Expr.string s).quoted, false)
  | .concat l g r => ((Expr.concat l g r).quoted, false)
  | .call f o args c => ([], inside (.call f o args c))
  | _ => ([], true)

/-- Looks for strings where only those in calls that `inside` allows are types. -/
def visitUnquoted (inside : Expr → Bool) : Expr → List LiteralResult × Bool
  | .call f o args c =>
    let e := Expr.call f o args c
    (if inside e then e.walkInside (visitQuoted inside) else [], false)
  | .concat _ _ _ => ([], false)
  | _ => ([], true)

/-- The types written as text in a part of a statement. -/
def Part.quoted (inside : Expr → Bool) (p : Part) : List LiteralResult :=
  p.exprs.flatMap fun e => if e.1 then e.2.walk (visitQuoted inside) else e.2.walk (visitUnquoted inside)

/-! ## All names of a text -/

def Param.name? : Param → Option Name
  | .star _ => none
  | .slash _ => none
  | .named _ name _ _ _ => some name

/-- Looks for names; an attribute access counts with all paths it goes through. -/
def visitNames : Expr → List String × Bool
  | .name n => ([n.text], false)
  | .attribute v d a => ((Expr.attribute v d a).dottedNames, true)
  | .call _ _ args _ => (args.filterMap Arg.keyword?, true)
  | .lambda _ _ ps _ _ => ((ps.filterMap Param.name?).map Name.text, true)
  | _ => ([], true)

def Alias.names (a : Alias) : List String := a.name.beginnings ++ a.renamed?.toList

/-- The names in a small statement outside its expressions. -/
def Small.plainNames : Small → List String
  | .importNames _ as => as.flatMap Alias.names
  | .importFrom f => (f.source.map DottedName.beginnings).getD [] ++ f.imported.aliases.flatMap Alias.names
  | .declare _ _ names => names.map fun d => d.name.text
  | _ => []

def Part.plainNames : Part → List String
  | .small s => s.plainNames
  | .bound n => [n.text]
  | _ => []

def Part.allNames (p : Part) : List String := p.plainNames ++ p.exprs.flatMap fun e => e.2.walk visitNames

/-- The names of a type written as text. -/
def LiteralResult.names : LiteralResult → Except QuotedError (List String)
  | .error e => .error (.literal e)
  | .ok v =>
    match v.source with
    | .error e => .error (.source e)
    | .ok s =>
      match Module.parse? s with
      | none => .error .unreadable
      | some m => .ok (m.parts.flatMap Part.allNames)

/-- The names of all types written as text, up to the first that cannot be read. -/
def namesOfAll : List LiteralResult → Except QuotedError (List String)
  | [] => .ok []
  | v :: vs =>
    match v.names with
    | .error e => .error e
    | .ok ns => (namesOfAll vs).map (ns ++ ·)

/-- Whether an expression is a call of `typing.TypeVar`. -/
def Table.isTypeVariable (t : Table) (e : Expr) : Bool := (t.qualifiedNamesOf e).contains "typing.TypeVar"

/-- The names in quoted annotations. -/
def Module.quotedNames (t : Table) (m : Module) : Except QuotedError (List String) :=
  namesOfAll (m.parts.flatMap (Part.quoted t.isTypeVariable))

end AttrsUpgrade
