import AttrsUpgrade.Text.Join
import AttrsUpgrade.Tree.Parts
/-!
# Imports

What import statements say, and what a module imports all in all.
-/

namespace AttrsUpgrade

def DottedName.names (d : DottedName) : List String := d.head :: d.tail.map DotPart.name

/-- The path without blanks. -/
def DottedName.path (d : DottedName) : String := joinWith "." d.names

/-- The beginnings of the path, longest first. -/
def DottedName.beginnings (d : DottedName) : List String :=
  ((List.range d.names.length).map fun i => joinWith "." (d.names.take (i + 1))).reverse

def Alias.path (a : Alias) : String := a.name.path

/-- The name that the alias is bound to, if it is renamed. -/
def Alias.renamed? (a : Alias) : Option String := a.asName.map fun n => n.name.text

/-- The number of dots of a relative import. -/
def FromImport.level (f : FromImport) : Nat := (f.dots.toList.filter (· == '.')).length

/-- Where a `from` import takes its names from, leading dots included. -/
def FromImport.origin (f : FromImport) : String :=
  String.ofList (List.replicate f.level '.') ++ (f.source.map DottedName.path).getD ""

/-- The module of an import that is not relative. -/
def FromImport.absolute? (f : FromImport) : Option String :=
  if f.level = 0 then f.source.map DottedName.path else none

/-- The imported names, none for a star. -/
def Imported.aliases : Imported → List Alias
  | .star => []
  | .names _ as => as

def Small.isImport : Small → Bool
  | .importNames _ _ => true
  | .importFrom _ => true
  | _ => false

/-! ## Gathering -/

/-- What a module imports without renaming: whole modules, and names by the module they come from in the order of first
mention. A star stands for all names of its module. -/
structure Gathered where
  modules : List String
  objects : List (String × List String)
deriving DecidableEq, Repr

namespace Gathered

def empty : Gathered := ⟨[], []⟩

/-- The names imported from a module. -/
def names (g : Gathered) (source : String) : List String := (g.objects.lookup source).getD []

/-- Replaces or appends the names of a module. -/
def put (source : String) (names : List String) : List (String × List String) → List (String × List String)
  | [] => [(source, names)]
  | (s, ns) :: rest => if s = source then (s, names) :: rest else (s, ns) :: put source names rest

/-- Takes in one more import statement. A star replaces all names of its module, and nothing is added to a star. -/
def add (g : Gathered) : Small → Gathered
  | .importNames _ as => { g with modules := g.modules ++ (as.filter (·.asName.isNone)).map Alias.path }
  | .importFrom f =>
    match f.absolute?, f.imported with
    | none, _ => g
    | some source, .star => { g with objects := put source ["*"] g.objects }
    | some source, .names _ as =>
      let new := (as.filter (·.asName.isNone)).map Alias.path
      let old := g.names source
      if new.isEmpty then g
      else if old.contains "*" then { g with objects := put source ["*"] g.objects }
      else { g with objects := put source (old ++ new) g.objects }
  | _ => g

/-- The first module that a name is imported from. -/
def sourceOf (g : Gathered) (name : String) : Option String :=
  (g.objects.find? fun o => o.2.contains name).map Prod.fst

end Gathered

def Part.small? : Part → Option Small
  | .small s => some s
  | _ => none

/-- All small statements of a module in source order. -/
def Module.smalls (m : Module) : List Small := m.parts.filterMap Part.small?

def Module.imports (m : Module) : Gathered := m.smalls.foldl Gathered.add .empty

/-- The module that `field` is imported from. -/
def Module.fieldSource (m : Module) : Option String := m.imports.sourceOf "field"

end AttrsUpgrade
