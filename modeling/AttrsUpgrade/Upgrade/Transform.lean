import AttrsUpgrade.Import.Add
import AttrsUpgrade.Import.Remove
import AttrsUpgrade.Text.Search
import AttrsUpgrade.Tree.Printer
import AttrsUpgrade.Upgrade.Pass
/-!
# The whole transformation

A module is upgraded in three stages: its classes are visited, the imports that the new text needs are added, and the imports
that are no longer used are removed. A `Session` does this to one module after another.
-/

namespace AttrsUpgrade

/-- The imports that the text of an upgraded module asks for. Comments and strings count as text. -/
def Module.needs (m : Module) : List Need :=
  let text := m.print
  let factory := Text.holds text "Factory(" && !(m.imports.names "attr").contains "Factory"
  let field := Text.holds text "field(" && (m.fieldSource = none || m.fieldSource = some packageName)
  (if factory then [.object "Factory"] else []) ++ [.object "define"] ++ (if field then [.object "field"] else []) ++
    (if Text.holds text "attrs.field(" then [.package] else [])

/-- Why a text is not transformed. -/
inductive Failure where
  /-- The text is no module. -/
  | unreadable
  | resolve (e : ResolveError)
  | argOrder (e : ArgOrderError)
  | add (e : AddError)
  | remove (e : RemoveError)
deriving DecidableEq, Repr

/-- What is carried from one module to the next. -/
structure Session where
  state : State
  /-- The imports asked for so far. -/
  needs : List Need
deriving DecidableEq, Repr

def Session.fresh : Session := ⟨.fresh, []⟩

/-- The session at the start of a module: no warnings, and no imports asked for unless they are kept. -/
def Session.begin (keepNeeds : Bool) (s : Session) : Session :=
  ⟨{ s.state with skipped := [] }, if keepNeeds then s.needs else []⟩

/-- What the transformation of one module comes to. -/
structure Run where
  session : Session
  /-- The module after its classes were visited, if they all could be. -/
  visited : Option Module
  /-- The module with the imports it needs. -/
  added : Option Module
  result : Except Failure Module

/-- The warnings that were printed. -/
def Run.printed (r : Run) : String := joinAll (r.session.state.skipped.map warning)

/-- Adds and removes imports after the classes of a module were visited. -/
def Session.finish (s : Session) (visited : Module) : Run :=
  let s := { s with needs := s.needs ++ visited.needs }
  match visited.addImports s.needs with
  | .error e => ⟨s, some visited, none, .error (.add e)⟩
  | .ok added => ⟨s, some visited, some added, added.removeImports.mapError .remove⟩

/-- Transforms a module. -/
def Session.transformModule (s : Session) (m : Module) : Run :=
  match m.scan with
  | .error e => ⟨s, none, none, .error (.resolve e)⟩
  | .ok table =>
    match (visitModule (table.resolver m) m).run.run s.state with
    | (.ok visited, state) => { s with state }.finish visited
    | (.error e, state) => ⟨{ s with state }, none, none, .error (.argOrder e)⟩

/-- Transforms a text. -/
def Session.transform (s : Session) (text : String) : Run :=
  match Module.parse? text with
  | some m => s.transformModule m
  | none => ⟨s, none, none, .error .unreadable⟩

end AttrsUpgrade
