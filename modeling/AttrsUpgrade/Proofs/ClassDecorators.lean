import AttrsUpgrade.Proofs.Carryover
import AttrsUpgrade.Proofs.FieldCall
/-!
# The decorators of a class

Entering a class lowers the flag, whatever came before, and the decorators come first. So if none of them holds a field without
type, the pass finds the flag down at each of them and replaces all that are of the old style. The new decorator has the
arguments of the old one but for `auto_attribs=True`. Arguments in order stay so when some are left out, hence no decorator is
refused (`class_decorators_converted`).
-/

namespace AttrsUpgrade

/-! ## One decorator -/

/-- Whether an argument is not `auto_attribs=True`. -/
def Arg.Stays (a : Arg) : Prop := ¬(a.keyword? = some "auto_attribs" ∧ a.value.name? = some "True")

instance (a : Arg) : Decidable a.Stays := inferInstanceAs (Decidable (¬_))

/-- The arguments that the new decorator has. -/
def Decorator.kept (d : Decorator) : List Arg := ((d.expr.call?.map Call.args).getD []).filter fun a => a.Stays

/-- The new decorator in the place of an old one: `define` with the arguments that stay, each as it was, and without
parentheses just if there are none. -/
structure Decorator.BecomesDefine (d d' : Decorator) : Prop where
  bare : d'.expr = .name (newName "define") ↔ d.kept = []
  call : d.kept ≠ [] → d'.expr = .call (.name (newName "define")) "(" d.kept ")"
  layout : d' = ⟨[], "@", d'.expr, [.newline]⟩

/-- What becomes of a decorator, by the qualified names of what it says. -/
def Converts (names : Expr → List String) (d d' : Decorator) : Prop :=
  if (names d.expr).any classDecorators.contains then d.BecomesDefine d' else d' = d

theorem withoutAutoAttribs_eq (d : Decorator) : withoutAutoAttribs ((d.expr.call?.map Call.args).getD []) = d.kept := by
  refine List.filter_congr fun a _ => ?_
  simp [Arg.isAutoAttribs, Arg.Stays, ← Bool.not_and]

theorem callOf_inOrder {args : List Arg} (h : InOrder args) (func : Expr) :
    Expr.callOf func args = .ok (.call func "(" args ")") := by
  rw [Expr.callOf, checkArgs_eq_ok_iff.2 h]

/-- A decorator whose arguments are in order can be replaced. -/
theorem Decorator.upgrade_becomesDefine {d : Decorator} (h : ∀ call ∈ d.expr.call?, InOrder call.args) :
    ∃ d', d.upgrade = .ok d' ∧ d.BecomesDefine d' := by
  have horder : InOrder d.kept := by
    cases hcall : d.expr.call? with
    | none => simp [Decorator.kept, hcall, InOrder]
    | some call => exact (h call hcall).sublist (by simp [Decorator.kept, hcall])
  unfold Decorator.upgrade defineExpr
  rw [withoutAutoAttribs_eq]
  cases hkept : d.kept with
  | nil => exact ⟨_, rfl, by simp [hkept], by simp [hkept], rfl⟩
  | cons a as =>
    simp only [callOf_inOrder (hkept ▸ horder)]
    exact ⟨_, rfl, by simp [hkept], by simp [hkept], rfl⟩

/-! ## The pass over decorators -/

/-- Calls that are no fields without type change nothing. -/
theorem State.see_of_typed {r : Resolver} {s : State} {calls : List Call} (h : ∀ call ∈ calls, r.isUntyped call = false) :
    s.see r calls = s := by
  have hany : calls.any r.isUntyped = false := by simpa using h
  simp [State.see, hany]

section
variable {names : Expr → List String} {source : FieldSource} {s : State}

theorem visitDecorator_converts {d : Decorator} (hinside : s.inClass = true) (huntyped : s.untyped = false)
    (htyped : ∀ call ∈ d.expr.calls, (Resolver.ofNames names source).isUntyped call = false)
    (horder : ∀ call ∈ d.expr.call?, InOrder call.args) :
    ∃ d', Pass.Ok (visitDecorator (.ofNames names source) d) s d' s ∧ Converts names d d' := by
  have hsee : s = s.seeParts (.ofNames names source) [.decorator false d] :=
    (State.see_of_typed (by simpa [Part.calls, Part.exprs] using htyped)).symm
  simp only [visitDecorator, Pass.ok_bind, Pass.ok_get, see_ok, Converts]
  cases hold : (names d.expr).any classDecorators.contains with
  | true =>
    obtain ⟨d', hd', hbecomes⟩ := Decorator.upgrade_becomesDefine horder
    refine ⟨d', ⟨(), s, hsee, s, s, ⟨rfl, rfl⟩, ?_⟩, hbecomes⟩
    simp [hinside, huntyped, Resolver.ofNames, hold, hd']
  | false =>
    refine ⟨d, ⟨(), s, hsee, s, s, ⟨rfl, rfl⟩, ?_⟩, rfl⟩
    simp [hinside, huntyped, Resolver.ofNames, hold]

/-- One after the other the decorators are converted, and the state stays as it is. -/
theorem visitDecorators_converts {ds : List Decorator} (hinside : s.inClass = true) (huntyped : s.untyped = false)
    (htyped : ∀ d ∈ ds, ∀ call ∈ d.expr.calls, (Resolver.ofNames names source).isUntyped call = false)
    (horder : ∀ d ∈ ds, ∀ call ∈ d.expr.call?, InOrder call.args) :
    ∃ ds', Pass.Ok (visitDecorators (.ofNames names source) ds) s ds' s ∧ List.Forall₂ (Converts names) ds ds' := by
  induction ds with
  | nil => exact ⟨[], Pass.ok_pure.2 ⟨rfl, rfl⟩, .nil⟩
  | cons d ds ih =>
    rw [List.forall_mem_cons] at htyped horder
    obtain ⟨d', hd, hconverts⟩ := visitDecorator_converts hinside huntyped htyped.1 horder.1
    obtain ⟨ds', hds, hrest⟩ := ih htyped.2 horder.2
    refine ⟨d' :: ds', ?_, .cons hconverts hrest⟩
    simp only [visitDecorators, Pass.ok_bind, Pass.ok_pure]
    exact ⟨d', s, hd, ds', s, hds, rfl, rfl⟩

end

/-! ## Main theorem -/

/-- The decorators of a class are all converted, one for one and in their order, if none of them holds a field without type and the
arguments of each are in order. This is so in whatever state the pass comes to the class, and the pass over them leaves the
state as it is on entering the class. So it is in every run that gets through a module with the class in it, at any depth. -/
theorem class_decorators_converted {names : Expr → List String} {source : FieldSource} {c : ClassDef}
    (htyped : ∀ d ∈ c.head.decorators, ∀ call ∈ d.expr.calls, (Resolver.ofNames names source).isUntyped call = false)
    (horder : ∀ d ∈ c.head.decorators, ∀ call ∈ d.expr.call?, checkArgs call.args = .ok ()) :
    (∀ s : State, ∃ ds, (visitDecorators (.ofNames names source) c.head.decorators).run.run (s.enterClass c) =
        (.ok ds, s.enterClass c) ∧ List.Forall₂ (Converts names) c.head.decorators ds) ∧
    ∀ m m' s s', c ∈ m.classes → (visitModule (.ofNames names source) m).run.run s = (.ok m', s') →
      ∃ vs, Visit (.ofNames names source) s (.stmts m.body) (.stmts m'.body) s' vs ∧ (∃ v ∈ vs, v.cls = c) ∧
        ∀ v ∈ vs, v.cls = c → List.Forall₂ (Converts names) c.head.decorators v.updated.head.decorators := by
  have hpass : ∀ s : State, ∃ ds, Pass.Ok (visitDecorators (.ofNames names source) c.head.decorators) (s.enterClass c) ds
      (s.enterClass c) ∧ List.Forall₂ (Converts names) c.head.decorators ds := fun s =>
    visitDecorators_converts rfl rfl htyped fun d hd call hcall => checkArgs_eq_ok_iff.1 (horder d hd call hcall)
  refine ⟨hpass, fun m m' s s' hc hrun => ?_⟩
  obtain ⟨vs, hv, -⟩ := visit_of_module hrun
  have hvisited : c ∈ vs.map ClassVisit.cls := by
    rw [hv.classes]
    exact hc
  refine ⟨vs, hv, List.mem_map.1 hvisited, ?_⟩
  rintro v hvs rfl
  obtain ⟨ds, s₁, b', hds, -, hupdated⟩ := inside_ok.1 (hv.ok.2 v hvs).inside
  obtain ⟨ds', hds', hconverts⟩ := hpass v.before
  rw [hupdated, (hds.unique hds').1]
  exact hconverts

/-- A class with three decorators inside of another one, after a field without type. -/
def threeDecoratorsText : String :=
  "from attr import s, ib\nclass A:\n    x = ib()\n    @other\n" ++
    "    @s(auto_attribs=True, frozen = True, )  # old\n    @s(auto_attribs=True)\n    class B: pass\n"

theorem three_decorators_converted_inside : ∃ m table m' s' vs,
    Module.parse? threeDecoratorsText = some m ∧ m.scan = .ok table ∧
    (visitModule (table.resolver m) m).run.run .fresh = (.ok m', s') ∧
    m'.print = "from attr import s, ib\nclass A:\n    x = ib()\n    @other\n    @define(frozen = True, )\n" ++
      "    @define\n    class B: pass\n" ∧
    Visit (table.resolver m) .fresh (.stmts m.body) (.stmts m'.body) s' vs ∧
    ∃ v ∈ vs, v.cls.name = "B" ∧
      List.Forall₂ (Converts table.qualifiedNamesOf) v.cls.head.decorators v.updated.head.decorators := by
  have heval : observeVisit threeDecoratorsText (fun m r m' => decide (
      m'.print = "from attr import s, ib\nclass A:\n    x = ib()\n    @other\n    @define(frozen = True, )\n" ++
        "    @define\n    class B: pass\n" ∧
      ∃ c ∈ m.classes, c.name = "B" ∧ (∀ d ∈ c.head.decorators, ∀ call ∈ d.expr.calls, r.isUntyped call = false) ∧
        ∀ d ∈ c.head.decorators, ∀ call ∈ d.expr.call?, InOrder call.args)) = some true := by
    decide +kernel
  obtain ⟨m, table, m', hp, hs, hv, heval⟩ := exists_of_observeVisit heval
  obtain ⟨hprint, c, hc, hname, htyped, horder⟩ := of_decide_eq_true heval
  obtain ⟨s', hrun⟩ := Session.pass_of_visited hp hs hv
  rw [Table.resolver_eq_ofNames] at htyped hrun
  obtain ⟨vs, hvisit, ⟨v, hvs, rfl⟩, hconverts⟩ := (class_decorators_converted htyped fun d hd call hcall =>
    checkArgs_eq_ok_iff.2 (horder d hd call hcall)).2 _ _ _ _ hc hrun
  rw [← Table.resolver_eq_ofNames] at hrun hvisit
  exact ⟨m, table, m', s', vs, hp, hs, hrun, hprint, hvisit, v, hvs, hname, hconverts v hvs rfl⟩

end AttrsUpgrade
