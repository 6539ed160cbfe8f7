import AttrsUpgrade.Upgrade.Field
/-!
# The value of a field

A field is declared with an annotation or without one, and each of the two forms chooses its value in a body of its own. Both
choose the same value (`FieldArgs.value?`), so that what holds of it is proved once for both (`FieldArgs.build_eq`).

They part where there is no value (`annotated_and_plain_agree`): an annotation can stand alone, but the plain form has to assign
something, and assigns the target to itself.
-/

namespace AttrsUpgrade

/-- The declaration of a field, by an annotation if there is one. -/
def Small.declaring (target : Expr) (hint : Option Hint) (v : Option Expr) : Small :=
  match hint with
  | some a => .annAssign target a (v.map fun e => ⟨" = ", e⟩)
  | none => .assign [⟨target, " = "⟩] (v.getD target)

/-- `Factory(e)`. -/
def Expr.ofFactory (e : Expr) : Expr := .call (.name (newName "Factory")) "(" [.ofValue e] ")"

/-- What is spelled as a factory is a call. -/
theorem factoryCall?_call {d : Expr} {c : Call} (h : factoryCall? d = some c) : d.call? = some c := by
  unfold factoryCall? at h
  split at h
  · next c' hc =>
    rw [hc]
    split at h
    · split at h
      · exact h
      · cases h
    · split at h
      · exact h
      · cases h
    · cases h
  · cases h

namespace FieldArgs

/-- Whether a field needs a call of `field`. -/
def needsField (f : FieldArgs) (force : Bool) : Bool := force || !f.others.isEmpty

/-- The value of the new declaration, if it has one. `force` asks for a `field` call whatever the arguments. -/
def value? (f : FieldArgs) (force : Bool) (source : FieldSource) : Except ArgOrderError (Option Expr) :=
  if f.needsField force then (Expr.callOf (fieldFunc source) f.fieldArgs).map some
  else if f.factoryFunc.isSome then .ok (f.factoryValue.map .ofFactory)
  else .ok f.simpleDefault

variable (f : FieldArgs) (target : Expr) (force : Bool) (source : FieldSource)

/-! ## Both forms have this value -/

theorem build_eq (hint : Option Hint) :
    f.build target hint force source = (f.value? force source).map (Small.declaring target hint) := by
  unfold build annotated plain value? needsField
  cases force || !f.others.isEmpty with
  | true =>
    -- both forms come to the call of `field`, whatever the defaults
    cases hint <;> cases Expr.callOf (fieldFunc source) f.fieldArgs <;>
      cases f.simpleDefault <;> cases f.factoryFunc <;> cases f.factoryValue <;> rfl
  | false => cases hint <;> cases f.simpleDefault <;> cases f.factoryFunc <;> cases f.factoryValue <;> rfl

variable {f target force source} {hint : Option Hint}

theorem build_eq_ok {x : Small} :
    f.build target hint force source = .ok x ↔ ∃ v, f.value? force source = .ok v ∧ x = .declaring target hint v := by
  rw [build_eq]
  cases f.value? force source <;> simp [Except.map, eq_comm]

theorem build_eq_error {e : ArgOrderError} :
    f.build target hint force source = .error e ↔ f.value? force source = .error e := by
  rw [build_eq]
  cases f.value? force source <;> simp [Except.map]

/-! ## What it is -/

/-- A value is refused just if it is a call of `field` whose arguments are not in order. -/
theorem value?_eq_error_iff {e : ArgOrderError} :
    f.value? force source = .error e ↔ f.needsField force = true ∧ checkArgs f.fieldArgs = .error e := by
  unfold value? Expr.callOf
  cases f.needsField force with
  | true => cases checkArgs f.fieldArgs <;> simp [Except.map]
  | false => cases f.factoryFunc <;> simp

/-- Otherwise it is a call of `field`, the default if there is no factory, or a call of `Factory` if that has an argument. -/
theorem value?_cases {v : Option Expr} (h : f.value? force source = .ok v) :
    f.needsField force = true ∧ v = some (.call (fieldFunc source) "(" f.fieldArgs ")") ∨
      f.needsField force = false ∧ (f.factoryFunc = none ∧ v = f.simpleDefault ∨
        f.factoryFunc ≠ none ∧ v = f.factoryValue.map .ofFactory) := by
  unfold value? Expr.callOf at h
  cases hneeds : f.needsField force with
  | true =>
    rw [if_pos hneeds] at h
    cases hargs : checkArgs f.fieldArgs <;> rw [hargs] at h <;> cases h
    exact .inl ⟨rfl, rfl⟩
  | false =>
    rw [if_neg (by simp [hneeds])] at h
    cases hfunc : f.factoryFunc <;> rw [hfunc] at h <;> cases h
    · exact .inr ⟨rfl, .inl ⟨rfl, rfl⟩⟩
    · exact .inr ⟨rfl, .inr ⟨by simp, rfl⟩⟩

/-- There is no value just if no call of `field` is needed and there is no default, or one that is a factory without argument. -/
theorem value?_eq_none_iff {v : Option Expr} (h : f.value? force source = .ok v) :
    v = none ↔ f.needsField force = false ∧
      (f.factoryFunc = none ∧ f.simpleDefault = none ∨ f.factoryFunc ≠ none ∧ f.factoryValue = none) := by
  rcases value?_cases h with ⟨hneeds, rfl⟩ | ⟨hneeds, ⟨hfunc, rfl⟩ | ⟨hfunc, rfl⟩⟩
  · simp [hneeds]
  · simp [hneeds, hfunc]
  · simp [hneeds, hfunc]

end FieldArgs

/-! ## Main theorem -/

/-- Whatever a field is made of, the form with an annotation and the plain one are both refused, for the order of the arguments
of the call of `field` that they need, or both declare the same target, and with the same value. Only where the annotated form
has no value does the plain one have another, the target itself. -/
theorem annotated_and_plain_agree (f : FieldArgs) (target : Expr) (hint : Hint) (force : Bool) (source : FieldSource) :
    let annotated := f.build target (some hint) force source
    let plain := f.build target none force source
    (∃ e, annotated = .error e ∧ plain = .error e ∧ f.needsField force = true ∧ checkArgs f.fieldArgs = .error e) ∨
      ∃ (v : Option Expr) (w : Expr), annotated = .ok (.annAssign target hint (v.map fun e => ⟨" = ", e⟩)) ∧
        plain = .ok (.assign [⟨target, " = "⟩] w) ∧ (v = some w ∨ v = none ∧ w = target) ∧
        (v = none ↔ f.needsField force = false ∧
          (f.factoryFunc = none ∧ f.simpleDefault = none ∨ f.factoryFunc ≠ none ∧ f.factoryValue = none)) := by
  intro annotated plain
  cases hv : f.value? force source with
  | error e =>
    exact .inl ⟨e, FieldArgs.build_eq_error.2 hv, FieldArgs.build_eq_error.2 hv, FieldArgs.value?_eq_error_iff.1 hv⟩
  | ok v =>
    have hbuilt : ∀ a, f.build target a force source = .ok (.declaring target a v) := fun a =>
      FieldArgs.build_eq_ok.2 ⟨v, hv, rfl⟩
    refine .inr ⟨v, v.getD target, hbuilt (some hint), hbuilt none, ?_, FieldArgs.value?_eq_none_iff hv⟩
    cases v with
    | none => exact .inr ⟨rfl, rfl⟩
    | some e => exact .inl rfl

end AttrsUpgrade
