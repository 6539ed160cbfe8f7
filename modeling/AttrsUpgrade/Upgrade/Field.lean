import AttrsUpgrade.Tree.ArgOrder
import AttrsUpgrade.Tree.Parts
/-!
# Fields

What the arguments of an `attr.ib` call say about a field, and the statement that declares the same field in the new style:
an annotation with a plain default, a `Factory` call or a `field` call.
-/

namespace AttrsUpgrade

/-! ## New nodes -/

/-- A name that no token was read for. -/
def newName (text : String) : Name := ⟨text, 0⟩

/-- `keyword = value`. -/
def Arg.ofKeyword (name : Name) (value : Expr) : Arg := ⟨.keyword name " = ", value, none, []⟩

def Arg.ofValue (value : Expr) : Arg := ⟨.positional, value, none, []⟩

/-- A call, if its arguments are in order. -/
def Expr.callOf (func : Expr) (args : List Arg) : Except ArgOrderError Expr :=
  match checkArgs args with
  | .ok _ => .ok (.call func "(" args ")")
  | .error e => .error e

/-! ## Arguments -/

/-- The values given for a keyword. -/
def valuesOf (keyword : String) (args : List Arg) : List Expr :=
  args.filterMap fun a => if a.keyword? = some keyword then some a.value else none

def withoutKeyword (keyword : String) (args : List Arg) : List Arg := args.filter fun a => a.keyword? ≠ some keyword

/-- The type that an `attr.ib` call gives: the last `type=`. -/
def typeArg? (args : List Arg) : Option Expr := (valuesOf "type" args).getLast?

/-- The call, if it is one of `Factory` or of something ending in `.Factory`. -/
def factoryCall? (e : Expr) : Option Call :=
  match e.call? with
  | some c =>
    match c.func.bare with
    | .name n => if n.text = "Factory" then some c else none
    | .attribute _ _ a => if a.text = "Factory" then some c else none
    | _ => none
  | none => none

/-- What the arguments of an `attr.ib` call say, the type apart. -/
structure FieldArgs where
  /-- What the last factory default calls. -/
  factoryFunc : Option Expr
  /-- The first argument of the last factory default that has one. -/
  factoryValue : Option Expr
  /-- The last default that is no factory. -/
  simpleDefault : Option Expr
  /-- The last default. -/
  defaultArg : Option Expr
  others : List Arg

/-- Sorts the arguments of an `attr.ib` call. -/
def FieldArgs.parse (args : List Arg) : FieldArgs :=
  let defaults := valuesOf "default" args
  let factories := defaults.filterMap factoryCall?
  { factoryFunc := factories.getLast?.map Call.func
    factoryValue := (factories.filterMap fun c => c.args.head?.map Arg.value).getLast?
    simpleDefault := (defaults.filter fun e => (factoryCall? e).isNone).getLast?
    defaultArg := defaults.getLast?
    others := withoutKeyword "default" (withoutKeyword "type" args) }

/-! ## The new declaration -/

/-- Where `field` comes from, if the module imports it at all. -/
abbrev FieldSource := Option String

/-- How the new `field` is spelled: by its own name unless that name comes from elsewhere. -/
def fieldFunc (source : FieldSource) : Expr :=
  if source = none ∨ source = some "attrs" then .name (newName "field")
  else .attribute (.name (newName "attrs")) "." (newName "field")

/-- A keyword argument is written anew, any other is kept as it is. -/
def Arg.renew (a : Arg) : Arg :=
  match a.kind with
  | .keyword name _ => .ofKeyword name a.value
  | _ => a

/-- The arguments of the new `field` call. With and without an annotation they are put together by the same steps in the same
words, so that they stand here once; the choice of the value is written out in both. -/
def FieldArgs.fieldArgs (f : FieldArgs) : List Arg :=
  let factory :=
    match f.factoryFunc, f.factoryValue with
    | some _, some v => [Arg.ofKeyword (newName "factory") v]
    | _, _ => []
  let default :=
    match f.defaultArg, f.factoryFunc with
    | some v, none => [Arg.ofKeyword (newName "default") v]
    | _, _ => []
  factory ++ default ++ f.others.map Arg.renew

/-- `target: annotation` with the value, if there is one: the default, a `Factory` call, or a `field` call where there is more to
say. `force` asks for a `field` call whatever the arguments. -/
def FieldArgs.annotated (f : FieldArgs) (target : Expr) (hint : Hint) (force : Bool) (source : FieldSource) :
    Except ArgOrderError Small :=
  let declare (e : Expr) : Small := .annAssign target hint (some ⟨" = ", e⟩)
  match f.simpleDefault, f.factoryFunc, f.factoryValue, force || !f.others.isEmpty with
  | some d, none, _, false => .ok (declare d)
  | _, some _, some v, false => .ok (declare (.call (.name (newName "Factory")) "(" [.ofValue v] ")"))
  | _, _, _, true => (Expr.callOf (fieldFunc source) f.fieldArgs).map declare
  | _, _, _, false => .ok (.annAssign target hint none)

/-- `target = value`. The value is chosen in the same way; where there is none the target is assigned to itself. -/
def FieldArgs.plain (f : FieldArgs) (target : Expr) (force : Bool) (source : FieldSource) : Except ArgOrderError Small :=
  let assign (e : Expr) : Small := .assign [⟨target, " = "⟩] e
  match f.simpleDefault, f.factoryFunc, f.factoryValue, force || !f.others.isEmpty with
  | some d, none, _, false => .ok (assign d)
  | _, some _, some v, false => .ok (assign (.call (.name (newName "Factory")) "(" [.ofValue v] ")"))
  | _, _, _, true => (Expr.callOf (fieldFunc source) f.fieldArgs).map assign
  | _, _, _, false => .ok (assign target)

/-- The new declaration of a field, with or without annotation. -/
def FieldArgs.build (f : FieldArgs) (target : Expr) (hint : Option Hint) (force : Bool)
    (source : FieldSource) : Except ArgOrderError Small :=
  match hint with
  | some a => f.annotated target a force source
  | none => f.plain target force source

/-- An annotation as it is written anew. -/
def Hint.ofExpr (e : Expr) : Hint := ⟨": ", e⟩

/-- What an assignment assigns to: the first of its targets. -/
def Small.target? : Small → Option Expr
  | .annAssign target _ _ => some target
  | .assign (t :: _) _ => some t.target
  | _ => none

end AttrsUpgrade
