import AttrsUpgrade.Proofs.Bindings
import AttrsUpgrade.Proofs.FieldNames
/-!
# What becomes of a default

The default of a field is given by a value, or by a factory that is called for each object. The pass tells the two apart by
how the factory is spelled and takes over only the first argument of a factory. So a default keeps what it says in all cases
but two: a factory that is called with anything but one plain argument, and something else that is called `Factory`
(`default_kept_iff`).
-/

namespace AttrsUpgrade

/-! ## What is given -/

/-- What a declaration gives as the value of a field. -/
inductive Given where
  | nothing
  | value (e : Expr)
  /-- A call of `field`. -/
  | field (args : List Arg)

def Given.expr? (source : FieldSource) : Given → Option Expr
  | .nothing => none
  | .value e => some e
  | .field args => some (.call (fieldFunc source) "(" args ")")

namespace FieldArgs

/-- What the new declaration gives. -/
def given (f : FieldArgs) (force : Bool) : Given :=
  if f.needsField force then .field f.fieldArgs
  else
    match f.factoryFunc, f.factoryValue, f.simpleDefault with
    | none, _, some d => .value d
    | some _, some v, _ => .value (.ofFactory v)
    | _, _, _ => .nothing

variable {f : FieldArgs} {force : Bool} {source : FieldSource}

theorem value?_given {v : Option Expr} (h : f.value? force source = .ok v) : v = (f.given force).expr? source := by
  unfold given
  rcases value?_cases h with ⟨hneeds, rfl⟩ | ⟨hneeds, ⟨hfunc, rfl⟩ | ⟨hfunc, rfl⟩⟩
  · rw [if_pos hneeds]
    rfl
  · rw [if_neg (by simp [hneeds]), hfunc]
    cases f.simpleDefault <;> rfl
  · obtain ⟨func, hfunc⟩ := Option.ne_none_iff_exists'.1 hfunc
    rw [if_neg (by simp [hneeds]), hfunc]
    cases f.factoryValue <;> rfl

theorem build_given {target : Expr} {hint : Option Hint} {y : Small} (h : f.build target hint force source = .ok y) :
    y = .declaring target hint ((f.given force).expr? source) := by
  obtain ⟨v, hv, rfl⟩ := build_eq_ok.1 h
  rw [← value?_given hv]

/-- The arguments of a field with one default. -/
theorem parse_of_default {args : List Arg} {d : Expr} (h : valuesOf "default" args = [d]) :
    parse args =
      match factoryCall? d with
      | none => ⟨none, none, some d, some d, withoutKeyword "default" (withoutKeyword "type" args)⟩
      | some c => ⟨some c.func, c.args.head?.map Arg.value, none, some d,
          withoutKeyword "default" (withoutKeyword "type" args)⟩ := by
  unfold parse
  rw [h]
  cases hc : factoryCall? d with
  | none => simp [hc]
  | some c => cases ha : c.args.head? <;> simp [hc, ha]

end FieldArgs

/-! ## What is kept of a default -/

/-- How an argument is given. -/
inductive ArgSort where
  | positional
  | keyword (name : String)
  | iterable
  | mapping
deriving DecidableEq, Repr

def ArgKind.sort : ArgKind → ArgSort
  | .positional => .positional
  | .keyword name _ => .keyword name.text
  | .iterable _ => .iterable
  | .mapping _ => .mapping

/-- What an argument says, its comma and the blanks around it apart. -/
def Arg.said (a : Arg) : ArgSort × String := (a.kind.sort, a.value.text)

/-- A call of the same factory, or of the new `Factory`, with the same arguments. -/
def Call.SameFactory (c c' : Call) : Prop :=
  (c'.func.text = c.func.text ∨ c'.func.text = "Factory") ∧ c'.args.map Arg.said = c.args.map Arg.said

/-- The qualified names of the factories of defaults. -/
def factoryMakers : List String := ["attr.Factory", "attrs.Factory"]

/-- The call that a default is, if it calls a factory by the names of what it calls. -/
def factoryOf? (names : Expr → List String) (d : Expr) : Option Call :=
  d.call?.filter fun c => (names c.func).any factoryMakers.contains

namespace Given

/-- The default is given unchanged, as the value or as the `default` of a call of `field`. -/
def Holds (d : Expr) : Given → Prop
  | .nothing => False
  | .value e => e.text = d.text
  | .field args => ∃ a ∈ args, a.keyword? = some "default" ∧ a.value.text = d.text

/-- The factory is given with all its arguments, be it by a call or, if it has one plain argument, as the `factory` of a call
of `field`. -/
def HoldsFactory (c : Call) : Given → Prop
  | .nothing => False
  | .value e => ∃ c' ∈ e.call?, c.SameFactory c'
  | .field args => (∃ a ∈ args, a.keyword? = some "default" ∧ ∃ c' ∈ a.value.call?, c.SameFactory c') ∨
      ∃ a ∈ args, a.keyword? = some "factory" ∧ c.args.map Arg.said = [(.positional, a.value.text)]

/-- The default is given as what it is. -/
def Carries (names : Expr → List String) (d : Expr) (g : Given) : Prop :=
  match factoryOf? names d with
  | some c => g.HoldsFactory c
  | none => g.Holds d

end Given

/-- Whether a default keeps what it says: it is not spelled as a factory, or it is a factory with one plain argument.
Anything else that is called `Factory` is kept only where it stands `alone` and reads as the new call. -/
def KeepsDefault (names : Expr → List String) (alone : Bool) (d : Expr) : Prop :=
  match factoryCall? d with
  | none => True
  | some c =>
    if (factoryOf? names d).isSome then c.args.map Arg.kind = [.positional]
    else alone = true ∧ ∃ a ∈ c.args.head?, (Expr.ofFactory a.value).text = d.text

instance (c c' : Call) : Decidable (c.SameFactory c') := inferInstanceAs (Decidable (_ ∧ _))

instance (d : Expr) : (g : Given) → Decidable (g.Holds d)
  | .nothing => inferInstanceAs (Decidable False)
  | .value e => inferInstanceAs (Decidable (e.text = d.text))
  | .field args => inferInstanceAs (Decidable (∃ a ∈ args, a.keyword? = some "default" ∧ a.value.text = d.text))

instance (c : Call) : (g : Given) → Decidable (g.HoldsFactory c)
  | .nothing => inferInstanceAs (Decidable False)
  | .value e => inferInstanceAs (Decidable (∃ c' ∈ e.call?, c.SameFactory c'))
  | .field _ => inferInstanceAs (Decidable (_ ∨ _))

instance (names : Expr → List String) (d : Expr) (g : Given) : Decidable (g.Carries names d) :=
  match h : factoryOf? names d with
  | some c => decidable_of_iff (g.HoldsFactory c) (by simp [Given.Carries, h])
  | none => decidable_of_iff (g.Holds d) (by simp [Given.Carries, h])

instance (names : Expr → List String) (alone : Bool) (d : Expr) : Decidable (KeepsDefault names alone d) :=
  match h : factoryCall? d with
  | none => .isTrue (by simp [KeepsDefault, h])
  | some c => decidable_of_iff (if (factoryOf? names d).isSome then c.args.map Arg.kind = [.positional]
      else alone = true ∧ ∃ a ∈ c.args.head?, (Expr.ofFactory a.value).text = d.text) (by simp [KeepsDefault, h])

/-! ## One default -/

section
variable {names : Expr → List String} {d : Expr} {c : Call}

theorem Call.SameFactory.refl (c : Call) : c.SameFactory c := ⟨.inl rfl, rfl⟩

theorem factoryOf?_call (h : factoryOf? names d = some c) : d.call? = some c := (Option.filter_eq_some_iff.1 h).1

/-- A default that is itself the value is given as what it is. -/
theorem Given.carries_value (names : Expr → List String) (d : Expr) : (Given.value d).Carries names d := by
  unfold Given.Carries
  split
  · next c hc => exact ⟨c, factoryOf?_call hc, .refl c⟩
  · rfl

/-- So is one that is the `default` of a call of `field`. -/
theorem Given.carries_field (names : Expr → List String) (d : Expr) (rest : List Arg) :
    (Given.field (.ofKeyword (newName "default") d :: rest)).Carries names d := by
  unfold Given.Carries
  split
  · next c hc => exact .inl ⟨_, List.mem_cons_self, rfl, c, factoryOf?_call hc, .refl c⟩
  · exact ⟨_, List.mem_cons_self, rfl, rfl⟩

theorem said_eq_iff (a : Arg) (as : List Arg) :
    (a :: as).map Arg.said = [(.positional, a.value.text)] ↔ (a :: as).map Arg.kind = [.positional] := by
  have hsort : a.kind.sort = .positional ↔ a.kind = .positional := by cases a.kind <;> simp [ArgKind.sort]
  simp [Arg.said, hsort]

@[simp] theorem Arg.ofKeyword_keyword? (name : Name) (e : Expr) : (Arg.ofKeyword name e).keyword? = some name.text := rfl

@[simp] theorem Arg.renew_keyword? (a : Arg) : a.renew.keyword? = a.keyword? := by
  unfold Arg.renew Arg.keyword? ArgKind.keyword?
  cases hk : a.kind <;> simp [Arg.ofKeyword, hk]

/-- No other argument is a default. -/
theorem others_not_default (args : List Arg) :
    ∀ a ∈ (withoutKeyword "default" args).map Arg.renew, a.keyword? ≠ some "default" := by
  intro a ha
  obtain ⟨b, hb, rfl⟩ := List.mem_map.1 ha
  rw [Arg.renew_keyword?]
  simpa using (List.mem_filter.1 hb).2

namespace FieldArgs
variable {args : List Arg} {force : Bool}

/-- What is given for a default that is not spelled as a factory. -/
theorem given_of_value (h : valuesOf "default" args = [d]) (hc : factoryCall? d = none) :
    (parse args).given force =
      if (parse args).needsField force then
        .field (.ofKeyword (newName "default") d :: (parse args).others.map Arg.renew)
      else .value d := by
  have hparse := parse_of_default h
  simp only [hc] at hparse
  rw [hparse]
  rfl

/-- What is given for a default that is spelled as a factory: only its first argument is taken over. -/
theorem given_of_factory (h : valuesOf "default" args = [d]) (hc : factoryCall? d = some c) :
    (parse args).given force =
      if (parse args).needsField force then
        .field ((c.args.head?.map fun a => Arg.ofKeyword (newName "factory") a.value).toList ++
          (parse args).others.map Arg.renew)
      else c.args.head?.elim .nothing fun a => .value (.ofFactory a.value) := by
  have hparse := parse_of_default h
  simp only [hc] at hparse
  rw [hparse]
  cases c.args.head? <;> rfl

/-- The first argument of a factory says all that it was called with just if it is the only one and a plain one. -/
theorem holdsFactory_iff (h : valuesOf "default" args = [d]) (hc : factoryCall? d = some c) :
    ((parse args).given force).HoldsFactory c ↔ c.args.map Arg.kind = [.positional] := by
  have hothers := others_not_default (withoutKeyword "type" args)
  rw [given_of_factory h hc]
  cases hargs : c.args with
  | nil =>
    refine iff_of_false ?_ (by simp)
    split
    · rintro (⟨a, ha, hdefault, -⟩ | ⟨a, -, -, hsaid⟩)
      · exact hothers a ha hdefault
      · simp [hargs] at hsaid
    · exact id
  | cons a as =>
    split
    · constructor
      · rintro (⟨b, hb, hdefault, -⟩ | ⟨b, -, -, hsaid⟩)
        · rcases List.mem_cons.1 hb with rfl | hb
          · simp [newName] at hdefault
          · exact absurd hdefault (hothers b hb)
        · -- whatever `b` is, it says what the only argument says
          obtain ⟨hfirst, -⟩ := List.cons.inj (hargs ▸ hsaid)
          rw [← (Prod.mk.inj hfirst).2, hargs] at hsaid
          exact (said_eq_iff a as).1 hsaid
      · intro hkind
        exact .inr ⟨_, List.mem_cons_self, rfl, hargs ▸ (said_eq_iff a as).2 hkind⟩
    · constructor
      · rintro ⟨c', hc', -, hsaid⟩
        cases hc'
        exact (said_eq_iff a as).1 (hargs ▸ hsaid.symm)
      · intro hkind
        exact ⟨_, rfl, .inr rfl, hargs ▸ ((said_eq_iff a as).2 hkind).symm⟩

/-- Something else that is called `Factory` is the value just if it stands alone and reads as the new call. -/
theorem holds_iff (h : valuesOf "default" args = [d]) (hc : factoryCall? d = some c) :
    ((parse args).given force).Holds d ↔
      (!(parse args).needsField force) = true ∧ ∃ a ∈ c.args.head?, (Expr.ofFactory a.value).text = d.text := by
  have hothers := others_not_default (withoutKeyword "type" args)
  rw [given_of_factory h hc]
  cases hneeds : (parse args).needsField force with
  | true =>
    refine iff_of_false ?_ (by simp)
    rintro ⟨b, hb, hdefault, -⟩
    rcases List.mem_append.1 hb with hb | hb
    · obtain ⟨a, -, rfl⟩ := Option.map_eq_some_iff.1 (Option.mem_toList.1 hb)
      simp [newName] at hdefault
    · exact hothers b hb hdefault
  | false => cases hargs : c.args.head? <;> simp [Given.Holds]

theorem carries_iff (h : valuesOf "default" args = [d]) :
    ((parse args).given force).Carries names d ↔ KeepsDefault names (!(parse args).needsField force) d := by
  unfold KeepsDefault
  cases hc : factoryCall? d with
  | none =>
    refine iff_of_true ?_ trivial
    rw [given_of_value h hc]
    split
    · exact Given.carries_field names d _
    · exact Given.carries_value names d
  | some c =>
    unfold Given.Carries
    cases hof : factoryOf? names d with
    | none => simpa using holds_iff h hc
    | some c' =>
      obtain rfl : c = c' := Option.some.inj ((factoryCall?_call hc).symm.trans (factoryOf?_call hof))
      simpa using holdsFactory_iff h hc

/-- Without a default none is given. -/
theorem given_of_no_default (h : valuesOf "default" args = []) :
    (parse args).given force =
      if (parse args).needsField force then .field ((parse args).others.map Arg.renew) else .nothing := by
  have hparse : parse args = ⟨none, none, none, none, (parse args).others⟩ := by simp [parse, h]
  rw [hparse]
  rfl

end FieldArgs

end

/-! ## Main theorem -/

/-- What takes the place of an assignment of a field call gives no default where the call has none, and carries over the one
it has just if that is not spelled as a factory, or is a factory with one plain argument. -/
theorem default_kept_iff {names : Expr → List String} {source : FieldSource} {s : State} {x y : Small}
    (h : upgradeSmall? (.ofNames names source) s x = .ok (some y)) :
    ∃ target value c hint, x.target? = some target ∧ x.assigned? = some value ∧ value.call? = some c ∧
      (names c.func).any fieldMakers.contains = true ∧
      let f := FieldArgs.parse c.args
      let g := f.given (s.forces target)
      y = .declaring target hint (g.expr? source) ∧
      (valuesOf "default" c.args = [] →
        g = if f.needsField (s.forces target) then .field (f.others.map Arg.renew) else .nothing) ∧
      ∀ d, valuesOf "default" c.args = [d] →
        (g.Carries names d ↔ KeepsDefault names (!f.needsField (s.forces target)) d) := by
  obtain ⟨target, value, c, htarget, hvalue, hc, -, hbuild⟩ := upgradeSmall?_built h
  obtain ⟨hcall, hfield⟩ := fieldCall?_eq_some hc
  exact ⟨target, value, c, x.newHint c, htarget, hvalue, hcall, hfield, FieldArgs.build_given hbuild,
    FieldArgs.given_of_no_default, fun d hd => FieldArgs.carries_iff hd⟩

/-- What `p` says of each default of a field call, by the arguments of the call and whether a method is attached to the field. -/
def Small.ofDefaults (p : FieldArgs → Bool → Expr → Bool) (s : State) (x : Small) : List Bool :=
  match x.target?, x.assigned?.bind Expr.call? with
  | some target, some c => (valuesOf "default" c.args).map (p (FieldArgs.parse c.args) (s.forces target))
  | _, _ => []

/-- Whether each default of a field call is carried over to what takes its place. -/
def Small.carried (names : Expr → List String) : State → Small → List Bool :=
  Small.ofDefaults fun f force d => decide ((f.given force).Carries names d)

/-- Whether each default of a field call keeps what it says. -/
def Small.keptDefaults (names : Expr → List String) : State → Small → List Bool :=
  Small.ofDefaults fun f force d => decide (KeepsDefault names (!f.needsField force) d)

/-- What takes the place of the assignments in the classes of a text, and what `p` says of them. -/
def observeDeclared (text : String) (p : (Expr → List String) → State → Small → List Bool) :
    Option (List (Option String × List Bool)) :=
  (Module.parse? text).bind fun m => m.scan.toOption.map fun table =>
    (m.classes.flatMap (ClassDef.declared (table.resolver m))).map fun y =>
      ((upgradeSmall? (table.resolver m) y.1.inside y.2.stmt).toOption.bind fun x => x.map Small.text,
        p table.qualifiedNamesOf y.1.inside y.2.stmt)

theorem exists_of_observeDeclared {text new : String} {p : (Expr → List String) → State → Small → List Bool} {bs : List Bool}
    (h : observeDeclared text p = some [(some new, bs)]) :
    ∃ m table y x, Module.parse? text = some m ∧ m.scan = .ok table ∧
      m.classes.flatMap (ClassDef.declared (table.resolver m)) = [y] ∧
      upgradeSmall? (table.resolver m) y.1.inside y.2.stmt = .ok (some x) ∧ x.text = new ∧
      p table.qualifiedNamesOf y.1.inside y.2.stmt = bs := by
  obtain ⟨m, hp, h⟩ := Option.bind_eq_some_iff.1 h
  obtain ⟨table, hs, h⟩ := Option.map_eq_some_iff.1 h
  obtain ⟨y, hy, h⟩ := List.map_eq_singleton_iff.1 h
  obtain ⟨hx, hbs⟩ := Prod.mk.inj h
  obtain ⟨x?, hup, hx⟩ := Option.bind_eq_some_iff.1 hx
  obtain ⟨x, rfl, htext⟩ := Option.map_eq_some_iff.1 hx
  exact ⟨m, table, y, x, hp, ok_of_toOption hs, hy, ok_of_toOption hup, htext, hbs⟩

/-- A factory with one argument, beside another argument of the field. -/
def listFactoryText : String :=
  "import attr\n@attr.s\nclass A:\n x = attr.ib(type=list, default=attr.Factory(list), init=False)\n"

/-- The factory is carried over. -/
theorem list_factory_is_kept : ∃ m table y x, Module.parse? listFactoryText = some m ∧ m.scan = .ok table ∧
    m.classes.flatMap (ClassDef.declared (table.resolver m)) = [y] ∧
    upgradeSmall? (table.resolver m) y.1.inside y.2.stmt = .ok (some x) ∧
    x.text = "x: list = field(factory = list, init = False)" ∧
    y.2.stmt.keptDefaults table.qualifiedNamesOf y.1.inside = [true] ∧
    y.2.stmt.carried table.qualifiedNamesOf y.1.inside = [true] := by
  have heval : observeDeclared listFactoryText (fun names s x => x.keptDefaults names s) =
      some [(some "x: list = field(factory = list, init = False)", [true])] := by
    decide +kernel
  obtain ⟨m, table, y, x, hp, hs, hy, hup, htext, hkeeps⟩ := exists_of_observeDeclared heval
  refine ⟨m, table, y, x, hp, hs, hy, hup, htext, hkeeps, ?_⟩
  rw [Table.resolver_eq_ofNames] at hup
  obtain ⟨target, value, c, hint, htarget, hvalue, hcall, -, -, -, hkept⟩ := default_kept_iff hup
  simp only [Small.keptDefaults, Small.carried, Small.ofDefaults, htarget, hvalue, hcall, Option.bind_some] at hkeeps ⊢
  obtain ⟨d, hd, hkeep⟩ := List.map_eq_singleton_iff.1 hkeeps
  rw [hd, List.map_singleton, decide_eq_true ((hkept d hd).2 (of_decide_eq_true hkeep))]

/-- A factory that is called with the object. -/
def selfFactoryText : String :=
  "import attr\n@attr.s\nclass A:\n a = attr.ib(type=int, default=attr.Factory(f, takes_self=True))\n"

/-- Its second argument is lost. -/
theorem second_argument_is_lost : ∃ out m table y x, (Session.fresh.transform selfFactoryText).result = .ok out ∧
    out.print = "from attrs import Factory, define\n\n@define\nclass A:\n a: int = Factory(f)\n" ∧
    Module.parse? selfFactoryText = some m ∧ m.scan = .ok table ∧
    m.classes.flatMap (ClassDef.declared (table.resolver m)) = [y] ∧
    upgradeSmall? (table.resolver m) y.1.inside y.2.stmt = .ok (some x) ∧ x.text = "a: int = Factory(f)" ∧
    y.2.stmt.carried table.qualifiedNamesOf y.1.inside = [false] := by
  have hprint : observe selfFactoryText (fun _ _ out => out.print) =
      some "from attrs import Factory, define\n\n@define\nclass A:\n a: int = Factory(f)\n" := by
    decide +kernel
  have hlost : observeDeclared selfFactoryText (fun names s x => x.carried names s) =
      some [(some "a: int = Factory(f)", [false])] := by
    decide +kernel
  obtain ⟨out, m, table, hr, hp, hs, hprint⟩ := exists_of_observe hprint
  obtain ⟨m', table', y, x, hp', hs', hy, hup, htext, hcarried⟩ := exists_of_observeDeclared hlost
  cases hp.symm.trans hp'
  cases hs.symm.trans hs'
  exact ⟨out, m, table, y, x, hr, hprint, hp, hs, hy, hup, htext, hcarried⟩

end AttrsUpgrade
