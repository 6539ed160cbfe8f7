import AttrsUpgrade.Proofs.Defaults
/-!
# The call of `field`

A field that needs more than a default is declared by a call of `field`. Its arguments are the factory or the default, if one
of them is taken over, and after that all other arguments as they came (`FieldArgs.fieldArgs_eq`).

The check of the order of arguments is a condition on pairs of arguments (`checkArgs_eq_ok_iff`), so leaving out some of them
never breaks it. Putting a default in front does, just if an argument without keyword follows
(`field_refused_iff_positional_after_default`). Where the call can be built, no other argument is lost or moved
(`other_arguments_kept_in_order`).
-/

namespace AttrsUpgrade

/-! ## Arguments in order -/

def Arg.sort (a : Arg) : ArgSort := a.kind.sort

/-- Whether an argument of the second sort may come after one of the first: no positional one after a keyword or `**`, and no
`*` after `**`. -/
def ArgSort.mayPrecede : ArgSort → ArgSort → Bool
  | .keyword _, .positional => false
  | .mapping, .positional => false
  | .mapping, .iterable => false
  | _, _ => true

def InOrder (args : List Arg) : Prop := args.Pairwise fun a b => a.sort.mayPrecede b.sort

instance (args : List Arg) : Decidable (InOrder args) := inferInstanceAs (Decidable (args.Pairwise _))

/-- Whether an argument of this sort may come in the stage. -/
def ArgStage.admits : ArgStage → ArgSort → Bool
  | .keyword, .positional => false
  | .mapping, .positional => false
  | .mapping, .iterable => false
  | _, _ => true

theorem ArgStage.next_error {stage : ArgStage} {k : ArgKind} {e : ArgOrderError} (h : stage.next k = .error e) :
    stage.admits k.sort = false := by
  cases stage <;> cases k <;> cases h <;> rfl

/-- The next stage admits what the stage does and what may come after the argument. -/
theorem ArgStage.next_ok {stage stage' : ArgStage} {k : ArgKind} (h : stage.next k = .ok stage') :
    stage.admits k.sort = true ∧ ∀ l, stage'.admits l = (stage.admits l && k.sort.mayPrecede l) := by
  cases stage <;> cases k <;> cases h <;> exact ⟨rfl, fun l => by cases l <;> rfl⟩

theorem ArgStage.keyword_admits_iff {k : ArgSort} : ArgStage.keyword.admits k = true ↔ k ≠ .positional := by
  cases k <;> simp [ArgStage.admits]

theorem checkArgsFrom_eq_ok_iff {stage : ArgStage} {args : List Arg} :
    checkArgsFrom stage args = .ok () ↔ (∀ a ∈ args, stage.admits a.sort = true) ∧ InOrder args := by
  induction args generalizing stage with
  | nil => simp [checkArgsFrom, InOrder]
  | cons a as ih =>
    rw [checkArgsFrom, InOrder, List.pairwise_cons, List.forall_mem_cons]
    cases hnext : stage.next a.kind with
    | error e =>
      have ha : stage.admits a.sort = false := ArgStage.next_error hnext
      simp [ha]
    | ok stage' =>
      obtain ⟨ha, hadmits⟩ := ArgStage.next_ok hnext
      have hall : (∀ b ∈ as, stage'.admits b.sort = true) ↔
          (∀ b ∈ as, stage.admits b.sort = true) ∧ ∀ b ∈ as, a.sort.mayPrecede b.sort = true := by
        simp only [hadmits, Bool.and_eq_true, Arg.sort, forall_and]
      simp only [ih, hall, InOrder]
      exact ⟨fun ⟨⟨hs, hp⟩, ho⟩ => ⟨⟨ha, hs⟩, hp, ho⟩, fun ⟨⟨_, hs⟩, hp, ho⟩ => ⟨⟨hs, hp⟩, ho⟩⟩

/-- The arguments of a call pass the check just if they are in order. -/
theorem checkArgs_eq_ok_iff {args : List Arg} : checkArgs args = .ok () ↔ InOrder args := by
  rw [checkArgs, checkArgsFrom_eq_ok_iff, and_iff_right]
  intro a _
  cases a.sort <;> rfl

theorem InOrder.sublist {args args' : List Arg} (h : InOrder args) (hs : args'.Sublist args) : InOrder args' :=
  List.Pairwise.sublist hs h

@[simp] theorem Arg.renew_sort (a : Arg) : a.renew.sort = a.sort := by
  unfold Arg.renew Arg.sort
  cases hk : a.kind <;> simp [Arg.ofKeyword, ArgKind.sort, hk]

theorem InOrder.renew {args : List Arg} (h : InOrder args) : InOrder (args.map Arg.renew) := by
  unfold InOrder at h ⊢
  rw [List.pairwise_map]
  simpa only [Arg.renew_sort] using h

theorem Arg.sort_eq_positional {a : Arg} : a.sort = .positional ↔ a.kind = .positional := by
  unfold Arg.sort
  cases a.kind <;> simp [ArgKind.sort]

/-- After a keyword the check stops at the first argument without one. Nothing that comes before it can be refused, as all are
in order among themselves. -/
theorem checkArgsFrom_keyword_of_positional {args : List Arg} (h : InOrder args) (hp : ∃ a ∈ args, a.sort = .positional) :
    checkArgsFrom .keyword args = .error .positionalAfterKeyword := by
  induction args with
  | nil => simp at hp
  | cons a as ih =>
    obtain ⟨hbefore, hrest⟩ := List.pairwise_cons.1 h
    -- a positional argument can only follow one that is neither a keyword nor `**`
    have hlater : ∀ b ∈ as, b.sort = .positional → a.sort.mayPrecede .positional = true := by
      intro b hb hpos
      exact hpos ▸ hbefore b hb
    obtain ⟨b, hb, hpos⟩ := hp
    rw [checkArgsFrom]
    cases hk : a.kind with
    | positional => rfl
    | iterable star =>
      rcases List.mem_cons.1 hb with rfl | hb
      · simp [Arg.sort, hk, ArgKind.sort] at hpos
      · exact ih hrest ⟨b, hb, hpos⟩
    | keyword name equals =>
      rcases List.mem_cons.1 hb with rfl | hb
      · simp [Arg.sort, hk, ArgKind.sort] at hpos
      · simpa [Arg.sort, hk, ArgKind.sort, ArgSort.mayPrecede] using hlater b hb hpos
    | mapping star =>
      rcases List.mem_cons.1 hb with rfl | hb
      · simp [Arg.sort, hk, ArgKind.sort] at hpos
      · simpa [Arg.sort, hk, ArgKind.sort, ArgSort.mayPrecede] using hlater b hb hpos

/-! ## What comes first -/

/-- Whether an argument gives neither the type nor the default. -/
def Arg.isOther (a : Arg) : Bool := a.keyword? ≠ some "type" && a.keyword? ≠ some "default"

/-- A default is taken over: one is a factory with an argument, or there are defaults and none of them is a factory. -/
def TakesDefault (args : List Arg) : Prop :=
  (∃ d ∈ valuesOf "default" args, ∃ c ∈ factoryCall? d, c.args ≠ []) ∨
    valuesOf "default" args ≠ [] ∧ ∀ d ∈ valuesOf "default" args, factoryCall? d = none

theorem Arg.isOther_of_positional {a : Arg} (h : a.kind = .positional) : a.isOther = true := by
  simp [Arg.isOther, Arg.keyword?, h, ArgKind.keyword?]

namespace FieldArgs
variable {f : FieldArgs} {args : List Arg} {force : Bool} {source : FieldSource}

/-- The first argument of the call of `field`: the factory, or the default if there is no factory. -/
def lead? (f : FieldArgs) : Option Arg :=
  match f.factoryFunc, f.factoryValue, f.defaultArg with
  | some _, some v, _ => some (.ofKeyword (newName "factory") v)
  | none, _, some v => some (.ofKeyword (newName "default") v)
  | _, _, _ => none

theorem fieldArgs_eq (f : FieldArgs) : f.fieldArgs = f.lead?.toList ++ f.others.map Arg.renew := by
  unfold fieldArgs lead?
  cases f.factoryFunc <;> cases f.factoryValue <;> cases f.defaultArg <;> rfl

/-- The first argument comes from a default: it is the first argument of a factory or the default itself. -/
theorem lead?_cases {a : Arg} (h : (parse args).lead? = some a) :
    (∃ d ∈ valuesOf "default" args, ∃ c ∈ factoryCall? d, ∃ b ∈ c.args.head?, a = .ofKeyword (newName "factory") b.value) ∨
      ∃ d ∈ valuesOf "default" args, a = .ofKeyword (newName "default") d := by
  unfold lead? at h
  split at h <;> cases h
  · next hvalue =>
    obtain ⟨c, hc, hv⟩ := List.mem_filterMap.1 (List.mem_of_getLast? hvalue)
    obtain ⟨d, hd, hf⟩ := List.mem_filterMap.1 hc
    obtain ⟨b, hb, rfl⟩ := Option.map_eq_some_iff.1 hv
    exact .inl ⟨d, hd, c, hf, b, hb, rfl⟩
  · next hdefault => exact .inr ⟨_, List.mem_of_getLast? hdefault, rfl⟩

/-- Hence it is a keyword. -/
theorem lead?_keyword {a : Arg} (h : (parse args).lead? = some a) : ∃ name v, a = .ofKeyword name v := by
  rcases lead?_cases h with ⟨-, -, -, -, b, -, rfl⟩ | ⟨d, -, rfl⟩
  · exact ⟨_, _, rfl⟩
  · exact ⟨_, _, rfl⟩

theorem factoryFunc_eq_none_iff :
    (parse args).factoryFunc = none ↔ ∀ d ∈ valuesOf "default" args, factoryCall? d = none := by
  simp [parse]

theorem factoryValue_eq_none_iff :
    (parse args).factoryValue = none ↔ ∀ d ∈ valuesOf "default" args, ∀ c ∈ factoryCall? d, c.args = [] := by
  simp only [parse, List.getLast?_eq_none_iff, List.filterMap_eq_nil_iff, List.mem_filterMap, Option.map_eq_none_iff,
    List.head?_eq_none_iff]
  constructor
  · intro h d hd c hc
    exact h c ⟨d, hd, hc⟩
  · rintro h c ⟨d, hd, hc⟩
    exact h d hd c hc

theorem defaultArg_eq_none_iff : (parse args).defaultArg = none ↔ valuesOf "default" args = [] := by
  simp [parse]

theorem lead?_isSome_iff : (parse args).lead?.isSome = true ↔ TakesDefault args := by
  have hlead : (parse args).lead?.isSome = true ↔
      (parse args).factoryFunc ≠ none ∧ (parse args).factoryValue ≠ none ∨
        (parse args).defaultArg ≠ none ∧ (parse args).factoryFunc = none := by
    unfold lead?
    cases (parse args).factoryFunc <;> cases (parse args).factoryValue <;> cases (parse args).defaultArg <;> simp
  rw [hlead, TakesDefault]
  refine or_congr ?_ (and_congr (not_congr defaultArg_eq_none_iff) factoryFunc_eq_none_iff)
  rw [Ne, Ne, factoryValue_eq_none_iff, factoryFunc_eq_none_iff]
  push Not
  constructor
  · exact And.right
  · rintro ⟨d, hd, c, hc, hargs⟩
    exact ⟨⟨d, hd, by simp [Option.mem_def.1 hc]⟩, d, hd, c, hc, hargs⟩

/-! ## What comes after it -/

theorem others_eq (args : List Arg) : (parse args).others = args.filter Arg.isOther := by
  simp only [parse, withoutKeyword, List.filter_filter]
  refine List.filter_congr fun a _ => ?_
  rw [Arg.isOther, Bool.and_comm]

/-- Without the first argument the call is always in order. -/
theorem others_inOrder (h : InOrder args) : InOrder ((parse args).others.map Arg.renew) := by
  rw [others_eq]
  exact (h.sublist List.filter_sublist).renew

theorem others_positional_iff :
    (∃ a ∈ (parse args).others.map Arg.renew, a.sort = .positional) ↔ ∃ a ∈ args, a.kind = .positional := by
  simp only [others_eq, List.mem_map, List.mem_filter]
  constructor
  · rintro ⟨_, ⟨a, ⟨ha, -⟩, rfl⟩, hpos⟩
    exact ⟨a, ha, Arg.sort_eq_positional.1 (a.renew_sort ▸ hpos)⟩
  · rintro ⟨a, ha, hpos⟩
    exact ⟨_, ⟨a, ⟨ha, Arg.isOther_of_positional hpos⟩, rfl⟩, a.renew_sort.trans (Arg.sort_eq_positional.2 hpos)⟩

/-- A default in front pushes the call out of order just if an argument without keyword follows. -/
theorem checkArgs_fieldArgs (h : InOrder args) :
    ((∃ a ∈ args, a.kind = .positional) ∧ TakesDefault args →
      checkArgs (parse args).fieldArgs = .error .positionalAfterKeyword) ∧
    (¬((∃ a ∈ args, a.kind = .positional) ∧ TakesDefault args) → checkArgs (parse args).fieldArgs = .ok ()) := by
  have hothers := others_inOrder h
  rw [fieldArgs_eq, ← others_positional_iff, ← lead?_isSome_iff]
  cases hlead : (parse args).lead? with
  | none =>
    refine ⟨fun ⟨_, hsome⟩ => absurd hsome (by simp), fun _ => ?_⟩
    exact checkArgs_eq_ok_iff.2 hothers
  | some a =>
    obtain ⟨name, v, rfl⟩ := lead?_keyword hlead
    -- the check goes on after the keyword
    change (_ → checkArgsFrom .keyword _ = _) ∧ (_ → checkArgsFrom .keyword _ = _)
    refine ⟨fun ⟨hpos, _⟩ => checkArgsFrom_keyword_of_positional hothers hpos, fun hno => ?_⟩
    refine checkArgsFrom_eq_ok_iff.2 ⟨fun b hb => ArgStage.keyword_admits_iff.2 fun hpos => ?_, hothers⟩
    exact hno ⟨⟨b, hb, hpos⟩, rfl⟩

/-! ## When the declaration is built -/

/-- The declaration is refused just if it needs a call of `field` whose arguments are not in order. -/
theorem build_eq_error_iff {target : Expr} {hint : Option Hint} {e : ArgOrderError} :
    f.build target hint force source = .error e ↔ f.needsField force = true ∧ checkArgs f.fieldArgs = .error e :=
  build_eq_error.trans value?_eq_error_iff

theorem needsField_iff : (parse args).needsField force = true ↔ force = true ∨ ∃ a ∈ args, a.isOther = true := by
  simp [needsField, others_eq]

end FieldArgs

/-- Arguments in order are refused just if one of them has no keyword and a default is taken over: that comes first then. All
other arguments in order make a declaration, whatever the target, the annotation and where `field` comes from, and whether or
not the call is asked for. -/
theorem field_refused_iff_positional_after_default {args : List Arg} (h : InOrder args) (target : Expr) (hint : Option Hint)
    (force : Bool) (source : FieldSource) :
    let built := (FieldArgs.parse args).build target hint force source
    (∀ e, built = .error e ↔ e = .positionalAfterKeyword ∧ (∃ a ∈ args, a.kind = .positional) ∧ TakesDefault args) ∧
    (¬((∃ a ∈ args, a.kind = .positional) ∧ TakesDefault args) → ∃ y, built = .ok y) := by
  intro built
  obtain ⟨hrefused, haccepted⟩ := FieldArgs.checkArgs_fieldArgs h
  have herror : ∀ e, built = .error e ↔
      e = .positionalAfterKeyword ∧ (∃ a ∈ args, a.kind = .positional) ∧ TakesDefault args := by
    intro e
    rw [FieldArgs.build_eq_error_iff, FieldArgs.needsField_iff]
    constructor
    · rintro ⟨-, he⟩
      by_cases hcond : (∃ a ∈ args, a.kind = .positional) ∧ TakesDefault args
      · rw [hrefused hcond] at he
        exact ⟨(Except.error.inj he).symm, hcond⟩
      · rw [haccepted hcond] at he
        cases he
    · rintro ⟨rfl, ⟨a, ha, hpos⟩, hdefault⟩
      -- the argument without keyword is one that only a call of `field` can take
      exact ⟨.inr ⟨a, ha, Arg.isOther_of_positional hpos⟩, hrefused ⟨⟨a, ha, hpos⟩, hdefault⟩⟩
  refine ⟨herror, fun hno => ?_⟩
  cases hbuilt : built with
  | error e => exact absurd ((herror e).1 hbuilt).2 hno
  | ok y => exact ⟨y, rfl⟩

/-- `1, default = 2`. -/
def oneBeforeDefault : List Arg := [.ofValue (.literal "1"), .ofKeyword (newName "default") (.literal "2")]

theorem one_before_default_refused : InOrder oneBeforeDefault ∧
    (FieldArgs.parse oneBeforeDefault).build (.name (newName "x")) none false none = .error .positionalAfterKeyword := by
  have horder : InOrder oneBeforeDefault := by decide
  refine ⟨horder, ((field_refused_iff_positional_after_default horder _ none false none).1 _).2 ⟨rfl, ?_, ?_⟩⟩
  · exact ⟨_, List.mem_cons_self, rfl⟩
  · exact .inr ⟨List.cons_ne_nil _ _, fun d hd => by rw [List.mem_singleton.1 hd]; rfl⟩

/-! ## What the call holds -/

/-- What an argument is, its comma and the blanks around it apart. -/
def Arg.content (a : Arg) : ArgSort × Expr := (a.sort, a.value)

theorem Arg.renew_content (args : List Arg) : (args.map Arg.renew).map Arg.content = args.map Arg.content := by
  simp [Arg.content]

/-- The arguments of a call of `field`, made from those of the old call: at most one that gives the default or the factory, and
then all others in their order. -/
structure KeepsOthers (args new : List Arg) : Prop where
  split : ∃ lead rest : List Arg, new = lead ++ rest ∧ lead.length ≤ 1 ∧
    (∀ a ∈ lead,
      (∃ d ∈ valuesOf "default" args, ∃ c ∈ factoryCall? d, ∃ b ∈ c.args.head?,
        a.content = (.keyword "factory", b.value)) ∨
      ∃ d ∈ valuesOf "default" args, a.content = (.keyword "default", d)) ∧
    rest.map Arg.content = (args.filter Arg.isOther).map Arg.content
  noType : ∀ a ∈ new, a.keyword? ≠ some "type"

namespace FieldArgs
variable {args : List Arg} {force : Bool}

theorem fieldArgs_keepsOthers (args : List Arg) : KeepsOthers args (parse args).fieldArgs where
  split := by
    refine ⟨(parse args).lead?.toList, (parse args).others.map Arg.renew, fieldArgs_eq _, ?_, fun a ha => ?_, ?_⟩
    · cases (parse args).lead? <;> simp
    · rcases lead?_cases (Option.mem_toList.1 ha) with ⟨d, hd, c, hc, b, hb, rfl⟩ | ⟨d, hd, rfl⟩
      · exact .inl ⟨d, hd, c, hc, b, hb, rfl⟩
      · exact .inr ⟨d, hd, rfl⟩
    · rw [Arg.renew_content, others_eq]
  noType := by
    intro a ha
    rw [fieldArgs_eq] at ha
    rcases List.mem_append.1 ha with ha | ha
    · rcases lead?_cases (Option.mem_toList.1 ha) with ⟨-, -, -, -, b, -, rfl⟩ | ⟨d, -, rfl⟩ <;> simp [newName]
    · obtain ⟨b, hb, rfl⟩ := List.mem_map.1 ha
      rw [others_eq] at hb
      have hother := (List.mem_filter.1 hb).2
      rw [Arg.renew_keyword?]
      simp only [Arg.isOther, Bool.and_eq_true, decide_eq_true_eq] at hother
      exact hother.1

theorem given_eq_field_iff {new : List Arg} :
    (parse args).given force = .field new ↔ (parse args).needsField force = true ∧ new = (parse args).fieldArgs := by
  unfold given
  cases (parse args).needsField force with
  | true => simp [eq_comm]
  | false =>
    cases (parse args).factoryFunc <;> cases (parse args).factoryValue <;> cases (parse args).simpleDefault <;> simp

theorem exists_given_field_iff :
    (∃ new, (parse args).given force = .field new) ↔ force = true ∨ ∃ a ∈ args, a.isOther = true := by
  rw [← needsField_iff]
  simp only [given_eq_field_iff, exists_and_left, exists_eq, and_true]

/-- A value that is no call of `field` is a default or a call of `Factory`. -/
theorem given_eq_value {e : Expr} (h : (parse args).given force = .value e) :
    e ∈ valuesOf "default" args ∨ ∃ v, e = .ofFactory v := by
  unfold given at h
  split at h
  · cases h
  · split at h <;> cases h
    · next hd => exact .inl (List.mem_filter.1 (List.mem_of_getLast? hd)).1
    · exact .inr ⟨_, rfl⟩

end FieldArgs

/-- Whatever the arguments, a declaration with an annotation keeps its target and its annotation. It calls `field` just if
this is asked for or some argument gives neither the type nor the default; and then all of these are in the call, in their
order, after at most one argument that gives the default. -/
theorem other_arguments_kept_in_order {args : List Arg} {target : Expr} {hint : Hint} {force : Bool} {source : FieldSource}
    {y : Small} (h : (FieldArgs.parse args).build target (some hint) force source = .ok y) :
    ∃ g : Given, y = .annAssign target hint ((g.expr? source).map fun e => ⟨" = ", e⟩) ∧
      ((∃ new, g = .field new) ↔ force = true ∨ ∃ a ∈ args, a.isOther = true) ∧
      (∀ new, g = .field new → KeepsOthers args new) ∧
      ∀ e, g = .value e → e ∈ valuesOf "default" args ∨ ∃ v, e = .ofFactory v := by
  refine ⟨(FieldArgs.parse args).given force, FieldArgs.build_given h, FieldArgs.exists_given_field_iff, ?_,
    fun e => FieldArgs.given_eq_value⟩
  intro new hnew
  rw [(FieldArgs.given_eq_field_iff.1 hnew).2]
  exact FieldArgs.fieldArgs_keepsOthers args

/-- `*xs, type = int, default = 1, init = False, **kw`. -/
def mixedArgs : List Arg :=
  [⟨.iterable "*", .name (newName "xs"), none, []⟩, .ofKeyword (newName "type") (.name (newName "int")),
    .ofKeyword (newName "default") (.literal "1"), .ofKeyword (newName "init") (.name (newName "False")),
    ⟨.mapping "**", .name (newName "kw"), none, []⟩]

/-- The default comes first, and the other three arguments keep their order. -/
theorem mixed_args_kept_in_order : ∃ y new,
    (FieldArgs.parse mixedArgs).build (.name (newName "x")) (some (.ofExpr (.name (newName "int")))) false none = .ok y ∧
    y.text = "x: int = field(default = 1, *xs, init = False, **kw)" ∧
    y = .annAssign (.name (newName "x")) (.ofExpr (.name (newName "int"))) (some ⟨" = ", .call (fieldFunc none) "(" new ")"⟩) ∧
    KeepsOthers mixedArgs new := by
  obtain ⟨y, hy, htext⟩ : ∃ y, (FieldArgs.parse mixedArgs).build (.name (newName "x"))
      (some (.ofExpr (.name (newName "int")))) false none = .ok y ∧
      y.text = "x: int = field(default = 1, *xs, init = False, **kw)" := ⟨_, rfl, by decide +kernel⟩
  obtain ⟨g, hg, hcall, hkeeps, -⟩ := other_arguments_kept_in_order hy
  obtain ⟨new, rfl⟩ := hcall.2 (.inr ⟨_, List.mem_cons_self, rfl⟩)
  exact ⟨y, new, hy, htext, hg, hkeeps new rfl⟩

end AttrsUpgrade
