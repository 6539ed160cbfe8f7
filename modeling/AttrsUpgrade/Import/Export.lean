import AttrsUpgrade.Scope.Scan
/-!
# Exported names

The names that a module exports by listing them as strings in `__all__`.
-/

namespace AttrsUpgrade

/-- Why the exported names cannot be told. -/
inductive ExportError where
  /-- `__all__` is assigned to side by side with other targets, and there are too few values. -/
  | missingValue
  | literal (e : Text.LiteralError)
deriving DecidableEq, Repr

def ExportError.message : ExportError → String
  | .missingValue => "tuple index out of range"
  | .literal e => e.message

/-- Looks for strings, not going into further lists, tuples and sets. -/
def visitExport : Expr → List LiteralResult × Bool
  | .string s => ((Expr.string s).literalValue?.toList, false)
  | .concat l g r => ((Expr.concat l g r).literalValue?.toList, false)
  | .display _ _ _ _ => ([], false)
  | _ => ([], true)

/-- The texts among values, up to the first literal that stands for nothing. -/
def textsOf : List LiteralResult → Except ExportError (List String)
  | [] => .ok []
  | .error e :: _ => .error (.literal e)
  | .ok (.text s) :: vs => (textsOf vs).map (s :: ·)
  | .ok (.bytes _) :: vs => textsOf vs

/-- The elements of a list, tuple or set. -/
def Expr.elements? (e : Expr) : Option (Display × List Piece) :=
  match e.bare with
  | .display kind _ ps _ => some (kind, ps)
  | _ => none

/-- The strings in a list, tuple or set. -/
def Expr.exportedStrings (e : Expr) : List LiteralResult :=
  (e.elements?.map fun d => walkPieces visitExport d.2).getD []

def Expr.isExportList (e : Expr) : Bool := e.fullName? = some "__all__"

/-- The strings that are exported when values are assigned to targets side by side: those among the values, and those in the
list, tuple or set that `__all__` is given. `none` if it is given none. -/
def sideBySide? : List Expr → List Expr → Except ExportError (Option (List LiteralResult))
  | [], _ => .ok none
  | t :: ts, v :: vs =>
    if t.isExportList && v.elements?.isSome then
      .ok (some (v.exportedStrings ++ vs.flatMap fun v => v.walk visitExport))
    else (sideBySide? ts vs).map fun r => r.map (v.walk visitExport ++ ·)
  | t :: ts, [] => if t.isExportList then .error .missingValue else sideBySide? ts []

/-- The strings that assigning a value to a target exports; `none` if the target is not `__all__`. -/
def exportsOf? (target value : Expr) : Except ExportError (Option (List LiteralResult)) :=
  if target.isExportList then .ok (if value.elements?.isSome then some value.exportedStrings else none)
  else
    match target.elements?, value.elements? with
    | some (.tuple, ts), some (.tuple, vs) => sideBySide? (ts.filterMap Piece.expr?) (vs.filterMap Piece.expr?)
    | _, _ => .ok none

/-- The strings that assigning a value to one target after the other exports; the first that is `__all__` counts. -/
def exportsOfAny (value : Expr) : List Target → Except ExportError (List LiteralResult)
  | [] => .ok []
  | t :: ts =>
    match exportsOf? t.target value with
    | .ok (some vs) => .ok vs
    | .ok none => exportsOfAny value ts
    | .error e => .error e

/-- The strings that a small statement exports. -/
def Small.exportedStrings : Small → Except ExportError (List LiteralResult)
  | .assign targets value => exportsOfAny value targets
  | .annAssign target _ (some a) => (exportsOf? target a.value).map fun r => r.getD []
  | .augAssign target sign value =>
    match value.elements? with
    | some (.set, _) => .ok []
    | some _ =>
      .ok (if target.name? = some "__all__" && sign.any (SpanPart.holdsChar '+') then value.exportedStrings else [])
    | none => .ok []
  | _ => .ok []

/-- The names that statements export. -/
def exportsOfAll : List Small → Except ExportError (List String)
  | [] => .ok []
  | s :: ss =>
    match s.exportedStrings with
    | .error e => .error e
    | .ok vs =>
      match textsOf vs with
      | .error e => .error e
      | .ok names => (exportsOfAll ss).map (names ++ ·)

def Module.exports (m : Module) : Except ExportError (List String) := exportsOfAll m.smalls

end AttrsUpgrade
