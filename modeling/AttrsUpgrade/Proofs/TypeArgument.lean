import AttrsUpgrade.Proofs.FieldCall
/-!
# Two ways of giving the type

The type of a field stands in an annotation, or as `type=` in the call that makes the field. Beside an annotation the pass reads
the arguments as they come; without one it takes the types out first. Either way a `type=` does not count as an argument of the
field, and of the others only their content does, not their commas and blanks (`FieldArgs.parse_alike`). So both ways lead to the
same declaration (`type_given_either_way`).
-/

namespace AttrsUpgrade

/-! ## Arguments with the same content -/

/-- The keyword of arguments of this sort. -/
def ArgSort.keyword? : ArgSort → Option String
  | .keyword name => some name
  | _ => none

theorem Arg.keyword?_eq (a : Arg) : a.keyword? = a.sort.keyword? := by
  unfold Arg.keyword? Arg.sort
  cases a.kind <;> rfl

theorem valuesOf_eq (keyword : String) (args : List Arg) : valuesOf keyword args =
    (args.map Arg.content).filterMap fun c => if c.1.keyword? = some keyword then some c.2 else none := by
  rw [valuesOf, List.filterMap_map]
  refine List.filterMap_congr fun a _ => ?_
  rw [a.keyword?_eq]
  rfl

theorem withoutKeyword_content (keyword : String) (args : List Arg) : (withoutKeyword keyword args).map Arg.content =
    (args.map Arg.content).filter fun c => c.1.keyword? ≠ some keyword := by
  rw [withoutKeyword, List.filter_map]
  refine congrArg _ (List.filter_congr fun a _ => ?_)
  rw [a.keyword?_eq]
  rfl

theorem ArgStage.next_congr {stage : ArgStage} {k k' : ArgKind} (h : k.sort = k'.sort) : stage.next k = stage.next k' := by
  cases stage <;> cases k <;> cases k' <;> simp_all [ArgStage.next, ArgKind.sort]

theorem checkArgsFrom_congr {stage : ArgStage} {args args' : List Arg} (h : args.map Arg.sort = args'.map Arg.sort) :
    checkArgsFrom stage args = checkArgsFrom stage args' := by
  induction args generalizing stage args' with
  | nil => rw [List.map_eq_nil_iff.1 h.symm]
  | cons a as ih =>
    obtain ⟨a', as', rfl, ha, has⟩ := List.map_eq_cons_iff.1 h.symm
    have hnext : stage.next a.kind = stage.next a'.kind := ArgStage.next_congr ha.symm
    rw [checkArgsFrom, checkArgsFrom, hnext]
    cases stage.next a'.kind with
    | error e => rfl
    | ok stage' => exact ih has.symm

/-- The check goes by the content of arguments. -/
theorem checkArgs_congr {args args' : List Arg} (h : args.map Arg.content = args'.map Arg.content) :
    checkArgs args = checkArgs args' := by
  refine checkArgsFrom_congr ?_
  simpa [Arg.content, Function.comp_def] using congrArg (List.map Prod.fst) h

/-! ## Fields that say the same -/

/-- The same value, the arguments of a call of `field` being compared by keyword, star and value. -/
def Given.Alike : Given → Given → Prop
  | .nothing, .nothing => True
  | .value e, .value e' => e = e'
  | .field args, .field args' => args.map Arg.content = args'.map Arg.content
  | _, _ => False

namespace FieldArgs

structure Alike (f f' : FieldArgs) : Prop where
  factoryFunc : f.factoryFunc = f'.factoryFunc
  factoryValue : f.factoryValue = f'.factoryValue
  simpleDefault : f.simpleDefault = f'.simpleDefault
  defaultArg : f.defaultArg = f'.defaultArg
  others : f.others.map Arg.content = f'.others.map Arg.content

/-- What is read of arguments goes by their content. -/
theorem parse_alike {args args' : List Arg} (h : args.map Arg.content = args'.map Arg.content) :
    (parse args).Alike (parse args') := by
  have hdefaults : valuesOf "default" args = valuesOf "default" args' := by rw [valuesOf_eq, valuesOf_eq, h]
  constructor
  case others => simp only [parse, withoutKeyword_content, h]
  all_goals simp only [parse, hdefaults]

namespace Alike
variable {f f' : FieldArgs} (h : f.Alike f') (force : Bool)
include h

theorem fieldArgs : f.fieldArgs.map Arg.content = f'.fieldArgs.map Arg.content := by
  have hlead : f.lead? = f'.lead? := by
    unfold lead?
    rw [h.factoryFunc, h.factoryValue, h.defaultArg]
  rw [fieldArgs_eq, fieldArgs_eq, List.map_append, List.map_append, Arg.renew_content, Arg.renew_content, h.others, hlead]

theorem needsField : f.needsField force = f'.needsField force := by
  have hempty : f.others.isEmpty = f'.others.isEmpty := by
    rw [← List.isEmpty_map, h.others, List.isEmpty_map]
  rw [FieldArgs.needsField, FieldArgs.needsField, hempty]

theorem given : (f.given force).Alike (f'.given force) := by
  unfold FieldArgs.given
  rw [h.needsField force, h.factoryFunc, h.factoryValue, h.simpleDefault]
  cases f'.needsField force with
  | true => exact h.fieldArgs
  | false => cases f'.factoryFunc <;> cases f'.factoryValue <;> cases f'.simpleDefault <;> simp [Given.Alike]

/-- They are refused for the same reason, whatever the annotations. -/
theorem build_eq_error {target : Expr} {hint hint' : Option Hint} {source : FieldSource} {e : ArgOrderError} :
    f.build target hint force source = .error e ↔ f'.build target hint' force source = .error e := by
  rw [build_eq_error_iff, build_eq_error_iff, h.needsField force, checkArgs_congr h.fieldArgs]

/-- Both are refused, or both are declared with the same value. -/
theorem build (target : Expr) (hint hint' : Option Hint) (source : FieldSource) :
    (∃ e, f.build target hint force source = .error e ∧ f'.build target hint' force source = .error e) ∨
      f.build target hint force source = .ok (.declaring target hint ((f.given force).expr? source)) ∧
        f'.build target hint' force source = .ok (.declaring target hint' ((f'.given force).expr? source)) := by
  cases hbuilt : f.build target hint force source with
  | error e => exact .inl ⟨e, rfl, (h.build_eq_error force).1 hbuilt⟩
  | ok y =>
    cases hbuilt' : f'.build target hint' force source with
    | error e =>
      rw [(h.build_eq_error force).2 hbuilt'] at hbuilt
      cases hbuilt
    | ok y' => exact .inr ⟨congrArg _ (build_given hbuilt), congrArg _ (build_given hbuilt')⟩

end Alike

end FieldArgs

/-! ## Main theorem -/

/-- The second arguments are the first ones with the type `e`: all `type=` of the first are left out and others put in at any
place, the last of them with the value `e`. -/
structure AddsType (args args' : List Arg) (e : Expr) : Prop where
  others : (withoutKeyword "type" args').map Arg.content = (withoutKeyword "type" args).map Arg.content
  type : typeArg? args' = some e

/-- A field with an annotation, and one without whose call gives the type instead, come to the same if no field without type has
been seen, the same names have methods and `field` comes from the same place. Either both are refused for the same reason, which
is the order of the arguments of the call of `field`, or both become the same target with the same annotation and the same
value. -/
theorem type_given_either_way {r r' : Resolver} {s s' : State} {type value value' : Expr} {c c' : Call}
    (hsource : r'.fieldSource = r.fieldSource) (huntyped : s.untyped = false) (huntyped' : s'.untyped = false)
    (hinside : s'.inClass = true) (hdecorated : ∀ n, n ∈ s'.decorated ↔ n ∈ s.decorated)
    (hc : r.fieldCall? value = some c) (hc' : r'.fieldCall? value' = some c') (hargs : AddsType c.args c'.args type)
    (target : Expr) (colon sign sign' : Span) :
    let annotated := upgradeSmall? r s (.annAssign target ⟨colon, type⟩ (some ⟨sign, value⟩))
    let plain := upgradeSmall? r' s' (.assign [⟨target, sign'⟩] value')
    let f := FieldArgs.parse c.args
    let g := f.given (s.forces target)
    (∃ e, annotated = .error e ∧ plain = .error e ∧ f.needsField (s.forces target) = true ∧
      checkArgs f.fieldArgs = .error e) ∨
    ∃ g', g.Alike g' ∧
      annotated = .ok (some (.annAssign target ⟨colon, type⟩ ((g.expr? r.fieldSource).map fun e => ⟨" = ", e⟩))) ∧
      plain = .ok (some (.annAssign target (.ofExpr type) ((g'.expr? r.fieldSource).map fun e => ⟨" = ", e⟩))) := by
  intro annotated plain f g
  have hforces : s'.forces target = s.forces target := by
    unfold State.forces
    cases target.name? <;> simp [hdecorated]
  have hannotated : annotated = (f.build target (some ⟨colon, type⟩) (s.forces target) r.fieldSource).map some := by
    simp [annotated, f, upgradeSmall?, huntyped, hc]
  have hplain : plain = ((FieldArgs.parse (withoutKeyword "type" c'.args)).build target (some (.ofExpr type))
      (s.forces target) r.fieldSource).map some := by
    simp [plain, upgradeSmall?, huntyped', hinside, hc', hargs.type, hforces, hsource]
  -- beside the annotation the types are passed over as well
  have halike := FieldArgs.parse_alike hargs.others.symm
  rw [FieldArgs.parse_withoutType c.args] at halike
  rw [hannotated, hplain]
  rcases halike.build (s.forces target) target (some ⟨colon, type⟩) (some (.ofExpr type)) r.fieldSource with
    ⟨e, he, he'⟩ | ⟨hbuilt, hbuilt'⟩
  · rw [he, he']
    exact .inl ⟨e, rfl, rfl, FieldArgs.build_eq_error_iff.1 he⟩
  · rw [hbuilt, hbuilt']
    exact .inr ⟨_, halike.given _, rfl, rfl⟩

/-- `1, type = str, init = False`. -/
def strArgs : List Arg :=
  [⟨.positional, .literal "1", some ", ", []⟩, .ofKeyword (newName "type") (.name (newName "str")),
    .ofKeyword (newName "init") (.name (newName "False"))]

/-- `type = list, 1, init = False, type = int`. -/
def intArgs : List Arg :=
  [.ofKeyword (newName "type") (.name (newName "list")), .ofValue (.literal "1"),
    .ofKeyword (newName "init") (.name (newName "False")), .ofKeyword (newName "type") (.name (newName "int"))]

/-- The qualified names of `ib` and `Factory` as if they were imported from `attr`. -/
def importedFromAttr (e : Expr) : List String :=
  (e.fullName?.filter ["ib", "Factory"].contains).toList.map ("attr." ++ ·)

/-- `x: int = ib(1, type = str, init = False)`. -/
def intByHint : Small :=
  .annAssign (.name (newName "x")) ⟨": ", .name (newName "int")⟩ (some ⟨" = ", .call (.name (newName "ib")) "(" strArgs ")"⟩)

/-- `x = ib(type = list, 1, init = False, type = int)`. -/
def intByArgument : Small := .assign [⟨.name (newName "x"), " = "⟩] (.call (.name (newName "ib")) "(" intArgs ")")

theorem int_given_either_way :
    let r := Resolver.ofNames importedFromAttr none
    let s := Seen.inside ⟨false, ["x"]⟩
    ∃ y y' g', upgradeSmall? r s intByHint = .ok (some y) ∧ upgradeSmall? r s intByArgument = .ok (some y') ∧
      y.text = "x: int = field(1, init = False)" ∧ y'.text = "x: int = field(1, init = False)" ∧
      ((FieldArgs.parse strArgs).given true).Alike g' ∧ y'.assigned? = g'.expr? none := by
  intro r s
  obtain ⟨y, hy, htext⟩ : ∃ y, upgradeSmall? r s intByHint = .ok (some y) ∧ y.text = "x: int = field(1, init = False)" :=
    ⟨_, rfl, by decide +kernel⟩
  obtain ⟨y', hy', htext'⟩ : ∃ y', upgradeSmall? r s intByArgument = .ok (some y') ∧
      y'.text = "x: int = field(1, init = False)" := ⟨_, rfl, by decide +kernel⟩
  have hargs : AddsType strArgs intArgs (.name (newName "int")) := ⟨rfl, rfl⟩
  have hcall : ∀ args, r.fieldCall? (.call (.name (newName "ib")) "(" args ")") = some ⟨.name (newName "ib"), args⟩ :=
    fun _ => rfl
  have huntyped : s.untyped = false := rfl
  rcases type_given_either_way rfl huntyped huntyped rfl (fun _ => .rfl) (hcall strArgs) (hcall intArgs) hargs
      (.name (newName "x")) ": " " = " " = " with ⟨e, he, -⟩ | ⟨g', halike, -, hplain⟩
  · exact absurd (he.symm.trans hy) (by simp)
  · refine ⟨y, y', g', hy, hy', htext, htext', halike, ?_⟩
    obtain rfl : y' = _ := Option.some.inj (Except.ok.inj (hy'.symm.trans hplain))
    cases g' <;> rfl

end AttrsUpgrade
