import AttrsUpgrade.Tree.Basic
/-!
# The order of arguments

Positional arguments come first. After a keyword argument only `*` unpacking, keywords and `**` unpacking may follow; after
`**` unpacking only keywords and `**` unpacking. Class arguments are stricter: no `*` unpacking after a keyword.
-/

namespace AttrsUpgrade

/-- Why a list of arguments is refused. -/
inductive ArgOrderError where
  | positionalAfterKeyword
  | positionalAfterMapping
  | iterableAfterMapping
deriving DecidableEq, Repr

def ArgOrderError.message : ArgOrderError → String
  | .positionalAfterKeyword => "Cannot have positional argument after keyword argument."
  | .positionalAfterMapping => "Cannot have positional argument after keyword argument unpacking."
  | .iterableAfterMapping => "Cannot have iterable argument unpacking after keyword argument unpacking."

/-- What has been seen of an argument list so far. -/
inductive ArgStage where
  | positional
  | keyword
  | mapping
deriving DecidableEq, Repr

/-- The stage after one more argument. -/
def ArgStage.next : ArgStage → ArgKind → Except ArgOrderError ArgStage
  | .positional, .positional => .ok .positional
  | .positional, .iterable _ => .ok .positional
  | .positional, .keyword _ _ => .ok .keyword
  | .keyword, .positional => .error .positionalAfterKeyword
  | .keyword, .iterable _ => .ok .keyword
  | .keyword, .keyword _ _ => .ok .keyword
  | .mapping, .positional => .error .positionalAfterMapping
  | .mapping, .iterable _ => .error .iterableAfterMapping
  | .mapping, .keyword _ _ => .ok .mapping
  | _, .mapping _ => .ok .mapping

/-- Checks the arguments from a stage on. -/
def checkArgsFrom (stage : ArgStage) : List Arg → Except ArgOrderError Unit
  | [] => .ok ()
  | a :: as =>
    match stage.next a.kind with
    | .ok stage' => checkArgsFrom stage' as
    | .error e => .error e

/-- Checks the arguments of a call. -/
def checkArgs (args : List Arg) : Except ArgOrderError Unit := checkArgsFrom .positional args

def ArgKind.isNamed : ArgKind → Bool
  | .keyword _ _ => true
  | .mapping _ => true
  | _ => false

/-- Whether class arguments are in order: all bases before the first keyword or `**`. -/
def classArgsInOrder (args : List Arg) : Bool := (args.dropWhile fun a => !a.kind.isNamed).all (·.kind.isNamed)

end AttrsUpgrade
