import AttrsUpgrade.Upgrade.Field
/-!
# Decorators

The `define` decorator that takes the place of an old one, and the decorators that attach a method to a field.
-/

namespace AttrsUpgrade

/-! ## Class decorators -/

/-- Whether an argument is `auto_attribs=True`, which `define` does not need. -/
def Arg.isAutoAttribs (a : Arg) : Bool := a.keyword? = some "auto_attribs" && a.value.name? = some "True"

def withoutAutoAttribs (args : List Arg) : List Arg := args.filter fun a => !a.isAutoAttribs

/-- What the new decorator says: `define`, with the arguments of the old one if any are left. -/
def defineExpr (old : Expr) : Except ArgOrderError Expr :=
  let define := Expr.name (newName "define")
  match withoutAutoAttribs ((old.call?.map Call.args).getD []) with
  | [] => .ok define
  | args => Expr.callOf define args

/-- The new decorator in the place of an old one. The empty lines before it and the comment after it are gone. -/
def Decorator.upgrade (d : Decorator) : Except ArgOrderError Decorator :=
  match defineExpr d.expr with
  | .ok e => .ok ⟨[], "@", e, [.newline]⟩
  | .error e => .error e

/-! ## Method decorators -/

/-- The `x` of a function's decorator `@x.attr`, for `attr` one of `attrs`. -/
def Part.decoratedName? (attrs : List String) : Part → Option String
  | .decorator true d =>
    match d.expr with
    | .attribute v _ a => if attrs.contains a.text then v.name? else none
    | _ => none
  | _ => none

/-- The names that functions among the parts are decorated with. -/
def decoratedNames (attrs : List String) (parts : List Part) : List String := parts.filterMap (Part.decoratedName? attrs)

/-- The decorators that attach a method to a field. -/
def methodDecorators : List String := ["validator", "default"]

end AttrsUpgrade
