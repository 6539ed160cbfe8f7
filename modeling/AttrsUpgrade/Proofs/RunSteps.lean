import AttrsUpgrade.Proofs.ScanSteps
/-!
# What a run does to steps and noises

A transformation has stages: the pass, the added imports and the removed imports (`transform_stages`). No stage brings a noise
(`Stages.out_noises`), and what is bound by import statements changes only by the imports that come and go
(`Stages.visited_bindings`, `Stages.out_bindings`).
-/

namespace AttrsUpgrade

/-! ## Noises of new declarations -/

theorem walkArgs_noise (args : List Arg) : walkArgs Expr.noise args = args.flatMap fun a => a.value.noises := by
  induction args with
  | nil => rfl
  | cons a as ih =>
    obtain ⟨kind, value, comma, after⟩ := a
    exact congrArg (value.noises ++ ·) ih

theorem Expr.noises_bare (e : Expr) : e.bare.noises = e.noises := by
  cases e with
  | paren o e c => exact e.noises_bare
  | _ => rfl

theorem Expr.noises_call (f : Expr) (o : Span) (args : List Arg) (c : Span) :
    (Expr.call f o args c).noises = f.noises ++ args.flatMap fun a => a.value.noises :=
  congrArg (f.noises ++ ·) (walkArgs_noise args)

theorem call?_noises {e : Expr} {c : Call} (h : e.call? = some c) :
    e.noises = c.func.noises ++ c.args.flatMap fun a => a.value.noises := by
  unfold Expr.call? at h
  split at h
  · next f o args cl hb =>
    cases h
    rw [← Expr.noises_bare, hb, Expr.noises_call]
  · cases h

/-- Every expression that a field is made from has only such noises. -/
structure FieldArgs.Within (f : FieldArgs) (zs : List Noise) : Prop where
  factoryValue : ∀ e ∈ f.factoryValue, e.noises ⊆ zs
  simpleDefault : ∀ e ∈ f.simpleDefault, e.noises ⊆ zs
  defaultArg : ∀ e ∈ f.defaultArg, e.noises ⊆ zs
  others : ∀ a ∈ f.others, a.value.noises ⊆ zs

theorem noises_subset_of_mem {args : List Arg} {a : Arg} (h : a ∈ args) :
    a.value.noises ⊆ args.flatMap fun a => a.value.noises :=
  fun _ hz => List.mem_flatMap.2 ⟨a, h, hz⟩

theorem valuesOf_noises {keyword : String} {args : List Arg} {e : Expr} (h : e ∈ valuesOf keyword args) :
    e.noises ⊆ args.flatMap fun a => a.value.noises := by
  obtain ⟨a, ha, hs⟩ := List.mem_filterMap.1 h
  split at hs
  · cases hs
    exact noises_subset_of_mem ha
  · cases hs

theorem factoryCall?_noises {e : Expr} {c : Call} (h : factoryCall? e = some c) :
    (c.args.flatMap fun a => a.value.noises) ⊆ e.noises := by
  rw [call?_noises (factoryCall?_call h)]
  exact List.subset_append_right _ _

theorem FieldArgs.parse_within (args : List Arg) : (FieldArgs.parse args).Within (args.flatMap fun a => a.value.noises) where
  factoryValue e he := by
    obtain ⟨c, hc, hv⟩ := List.mem_filterMap.1 (List.mem_of_getLast? he)
    obtain ⟨d, hd, hf⟩ := List.mem_filterMap.1 hc
    obtain ⟨a, ha, rfl⟩ := Option.map_eq_some_iff.1 hv
    exact List.Subset.trans (noises_subset_of_mem (List.mem_of_head? ha))
      (List.Subset.trans (factoryCall?_noises hf) (valuesOf_noises hd))
  simpleDefault e he := valuesOf_noises (List.mem_filter.1 (List.mem_of_getLast? he)).1
  defaultArg e he := valuesOf_noises (List.mem_of_getLast? he)
  others a ha := noises_subset_of_mem (List.mem_filter.1 (List.mem_filter.1 ha).1).1

theorem FieldArgs.fieldArgs_noises {f : FieldArgs} {zs : List Noise} (h : f.Within zs) :
    (f.fieldArgs.flatMap fun a => a.value.noises) ⊆ zs := by
  intro z hz
  obtain ⟨a, ha, hz⟩ := List.mem_flatMap.1 hz
  suffices ha : a.value.noises ⊆ zs from ha hz
  simp only [FieldArgs.fieldArgs, List.mem_append] at ha
  rcases ha with (ha | ha) | ha
  · split at ha
    · next v _ hv =>
      cases List.mem_singleton.1 ha
      exact h.factoryValue _ hv
    · cases ha
  · split at ha
    · next v hv _ =>
      cases List.mem_singleton.1 ha
      exact h.defaultArg _ hv
    · cases ha
  · obtain ⟨a', ha', rfl⟩ := List.mem_map.1 ha
    rw [Arg.renew_value]
    exact h.others a' ha'

theorem fieldFunc_noises (source : FieldSource) : (fieldFunc source).noises = [] := by
  unfold fieldFunc
  split <;> rfl

theorem FieldArgs.value?_noises {f : FieldArgs} {zs : List Noise} (h : f.Within zs) {force : Bool} {source : FieldSource}
    {v : Option Expr} (hv : f.value? force source = .ok v) : ∀ e ∈ v, e.noises ⊆ zs := by
  rintro e rfl
  rcases FieldArgs.value?_cases hv with ⟨-, he⟩ | ⟨-, ⟨-, he⟩ | ⟨-, he⟩⟩
  · cases he
    rw [Expr.noises_call, fieldFunc_noises, List.nil_append]
    exact FieldArgs.fieldArgs_noises h
  · exact h.simpleDefault e he.symm
  · obtain ⟨w, hw, rfl⟩ := Option.map_eq_some_iff.1 he.symm
    rw [Expr.ofFactory, Expr.noises_call, List.flatMap_singleton]
    exact List.append_subset.2 ⟨List.nil_subset _, h.factoryValue w hw⟩

theorem FieldArgs.build_noises {f : FieldArgs} {zs : List Noise} (h : f.Within zs) {target : Expr} {hint : Option Hint}
    {force : Bool} {source : FieldSource} {x : Small} (hx : f.build target hint force source = .ok x)
    (hhint : ∀ a ∈ hint, a.expr.noises ⊆ zs) (htarget : target.targetNoises ⊆ zs) : x.noises ⊆ zs := by
  have hvalue : ∀ v, f.value? force source = .ok v → ∀ e ∈ v, e.noises ⊆ zs := fun v => FieldArgs.value?_noises h
  obtain ⟨v, hv, rfl⟩ := FieldArgs.build_eq_ok.1 hx
  cases hint with
  | some a =>
    refine List.append_subset.2 ⟨List.append_subset.2 ⟨htarget, hhint a rfl⟩, ?_⟩
    cases v with
    | none => exact List.nil_subset _
    | some e => exact hvalue _ hv e rfl
  | none =>
    rw [Small.declaring, Small.noises, List.flatMap_singleton]
    refine List.append_subset.2 ⟨htarget, ?_⟩
    cases v with
    | none => exact List.Subset.trans (List.subset_append_right _ _) htarget
    | some e => exact hvalue _ hv e rfl

section
variable {r : Resolver}

theorem fieldCall?_noises {e : Expr} {c : Call} (h : r.fieldCall? e = some c) :
    (c.args.flatMap fun a => a.value.noises) ⊆ e.noises := by
  rw [call?_noises (fieldCall?_eq_some h).1]
  exact List.subset_append_right _ _

theorem FieldArgs.Within.mono {f : FieldArgs} {zs zs' : List Noise} (h : f.Within zs) (hz : zs ⊆ zs') : f.Within zs' where
  factoryValue e he := List.Subset.trans (h.factoryValue e he) hz
  simpleDefault e he := List.Subset.trans (h.simpleDefault e he) hz
  defaultArg e he := List.Subset.trans (h.defaultArg e he) hz
  others a ha := List.Subset.trans (h.others a ha) hz

theorem Small.target?_noises {x : Small} {target : Expr} (h : x.target? = some target) : target.targetNoises ⊆ x.noises := by
  unfold Small.target? at h
  split at h <;> cases h
  · exact List.Subset.trans (List.subset_append_left _ _) (List.subset_append_left _ _)
  · exact List.Subset.trans (List.subset_append_left _ _) (List.subset_append_left _ _)

theorem Small.assigned?_noises {x : Small} {value : Expr} (h : x.assigned? = some value) : value.noises ⊆ x.noises := by
  cases x with
  | assign ts v =>
    cases h
    exact List.subset_append_right _ _
  | annAssign t hint v =>
    obtain ⟨a, rfl, rfl⟩ := Option.map_eq_some_iff.1 h
    exact List.subset_append_right _ _
  | _ => cases h

theorem Small.newHint_noises {x : Small} {c : Call} (hargs : (c.args.flatMap fun a => a.value.noises) ⊆ x.noises) :
    ∀ a ∈ x.newHint c, a.expr.noises ⊆ x.noises := by
  intro a ha
  unfold Small.newHint at ha
  split at ha
  · cases ha
    exact List.Subset.trans (List.subset_append_right _ _) (List.subset_append_left _ _)
  · obtain ⟨e, he, rfl⟩ := Option.map_eq_some_iff.1 ha
    exact List.Subset.trans (valuesOf_noises (List.mem_of_getLast? he)) hargs

/-- What replaces an assignment is made from parts of it. -/
theorem upgradeSmall?_noises {st : State} {x y : Small} (h : upgradeSmall? r st x = .ok (some y)) : y.noises ⊆ x.noises := by
  obtain ⟨target, value, c, htarget, hvalue, hc, -, hbuild⟩ := upgradeSmall?_built h
  have hargs : (c.args.flatMap fun a => a.value.noises) ⊆ x.noises :=
    List.Subset.trans (fieldCall?_noises hc) (Small.assigned?_noises hvalue)
  exact FieldArgs.build_noises ((FieldArgs.parse_within c.args).mono hargs) hbuild (Small.newHint_noises hargs)
    (Small.target?_noises htarget)

theorem Decorator.Replaced.noises {d d' : Decorator} (h : d.Replaced r d') : d'.expr.noises ⊆ d.expr.noises := by
  have hnew := h.new
  unfold Decorator.upgrade at hnew
  split at hnew <;> cases hnew
  next e he =>
  unfold defineExpr at he
  simp only at he
  split at he
  · cases he
    exact List.nil_subset _
  · next hargs =>
    unfold Expr.callOf at he
    split at he <;> cases he
    rw [Expr.noises_call]
    refine List.append_subset.2 ⟨List.nil_subset _, ?_⟩
    cases hc : d.expr.call? with
    | none => exact List.nil_subset _
    | some c =>
      rw [call?_noises hc]
      intro z hz
      obtain ⟨a, ha, hz⟩ := List.mem_flatMap.1 hz
      exact List.mem_append_right _ (List.mem_flatMap.2 ⟨a, (List.mem_filter.1 ha).1, hz⟩)

theorem Item.Replaced.isAssignment {i i' : Item} (h : i.Replaced r i') : i.stmt.isAssignment = true := by
  obtain ⟨st, hst⟩ := h.new
  exact (upgradeSmall?_isAssignment hst).1

theorem Small.heard_of_assignment {x : Small} (h : x.isAssignment = true) : x.heard = x.noises := by
  cases x with
  | assign | annAssign => rfl
  | _ => cases h

theorem piecewise_subset {α : Type} : Piecewise fun xs ys : List α => ys ⊆ xs :=
  ⟨List.nil_subset _, fun h h' => List.append_subset.2
    ⟨List.Subset.trans h (List.subset_append_left _ _), List.Subset.trans h' (List.subset_append_right _ _)⟩⟩

/-- The pass brings no new noises. -/
theorem Edited.noises {n n' : Node} (h : Edited r n n') (s : Scope) : n'.gather listening s ⊆ n.gather listening s := by
  have hR : Piecewise fun zs zs' : List Noise => zs' ⊆ zs := piecewise_subset
  have hdecorators : ∀ {ds ds' : List Decorator}, List.Forall₂ (DecoratorEdit r) ds ds' →
      ds'.flatMap (fun d => d.expr.noises) ⊆ ds.flatMap fun d => d.expr.noises := by
    intro ds ds' hd
    refine hR.flatMap hd fun d _ d' hd => ?_
    rcases hd with rfl | hd
    · exact List.Subset.refl _
    · exact hd.noises
  refine Edited.gather (P := fun _ _ => True) hR ⟨?_, ?_, ?_, fun _ _ => List.Subset.refl _⟩ h s fun _ _ => trivial
  · rintro s i i' - (rfl | hi)
    · exact List.Subset.refl _
    · obtain ⟨st, hst⟩ := hi.new
      show i'.stmt.heard ⊆ i.stmt.heard
      rw [Small.heard_of_assignment hi.assigns, Small.heard_of_assignment hi.isAssignment]
      exact upgradeSmall?_noises hst
  · intro s h ds hd
    exact hR.append (hR.append (hdecorators hd) (List.Subset.refl _)) (List.Subset.refl _)
  · intro s h ds hd
    exact hR.append (hdecorators hd) (List.Subset.refl _)

end

/-! ## What imports leave alone -/

theorem piecewise_eq {α : Type} : Piecewise fun xs ys : List α => xs = ys :=
  ⟨rfl, fun h h' => by rw [h, h']⟩

/-- Imports give nothing to what is gathered. -/
def Gather.Importless {α : Type} (g : Gather α) : Prop := ∀ s x, x.isImport = true → g.small s x = []

theorem listening_blind : listening.Blind := ⟨fun _ _ _ => rfl, fun _ _ _ => rfl⟩

theorem listening_importless : listening.Importless := by
  intro s x hx
  cases x with
  | importNames | importFrom => rfl
  | _ => cases hx

section
variable {α : Type} {g : Gather α} (hi : g.Importless)
include hi

theorem addImports_importless (hg : g.Blind) {m m' : Module} {needs : List Need} (h : m.addImports needs = .ok m') :
    m.gather g = m'.gather g := by
  refine addImports_gather piecewise_eq hg (.of_refl (fun _ => rfl) _) ?_ ?_ h
  · intro names _ s x
    cases x with
    | importFrom f =>
      rw [hi s _ rfl, hi s _ ?_]
      simp only [Small.receive]
      split
      · rfl
      · split <;> rfl
    | _ => rfl
  · intro names _
    have hline : ∀ x : Small, x.isImport = true → (Stmt.ofImport x).gather g [] = [] := by
      intro x hx
      show g.small [] x ++ [] = []
      rw [hi [] x hx]
      rfl
    unfold newImports
    cases (m.imports.missing needs).package <;> cases names.isEmpty <;>
      simp [gatherStmts, hline (.importNames _ _) rfl, hline (.importFrom _) rfl]

theorem removeImports_importless (u : Usage) (n : Node) (s : Scope) : n.gather g s = (n.removeImports u s).gather g s := by
  refine Node.removeImports_gather piecewise_eq (.of_refl (fun _ => rfl) _) (fun s x => ?_) n s
  cases x with
  | importNames o as =>
    rw [hi s _ rfl]
    simp only [Small.dropAliases]
    split
    · rfl
    · exact (hi s _ rfl).symm
  | importFrom f =>
    rw [hi s _ rfl]
    simp only [Small.dropAliases]
    split
    · split
      · rfl
      · exact (hi s _ rfl).symm
    · exact (hi s _ rfl).symm
  | _ => rfl

end

/-! ## The stages of a run -/

/-- The modules that a run goes through. -/
structure Stages (r : Resolver) (m visited added out : Module) (u : Usage) : Prop where
  visited_eq : visited = { m with body := visited.body }
  visit : ∃ state vs, Visit r .fresh (.stmts m.body) (.stmts visited.body) state vs
  added_ok : visited.addImports visited.needs = .ok added
  uses : added.Uses u
  out_eq : out = { added with body := removeFromStmts u [] added.body }

/-- A run that succeeds goes through its stages. -/
theorem transform_run {text : String} {m out : Module} (hp : Module.parse? text = some m)
    (h : (Session.fresh.transform text).result = .ok out) :
    ∃ table visited added u, m.scan = .ok table ∧ (Session.fresh.transform text).visited = some visited ∧
      (Session.fresh.transform text).added = some added ∧ Stages (table.resolver m) m visited added out u := by
  obtain ⟨m', table, visited, state, hp', hs, hv, hrun⟩ := transform_eq_finish h
  cases hp.symm.trans hp'
  obtain ⟨vs, hvisit, hm⟩ := visit_of_module hv
  rw [hrun] at h ⊢
  unfold Session.finish at h ⊢
  simp only [Session.fresh, List.nil_append] at h ⊢
  cases ha : visited.addImports visited.needs with
  | error e =>
    simp only [ha] at h
    cases h
  | ok added =>
    simp only [ha] at h ⊢
    cases hr : added.removeImports with
    | error e =>
      rw [hr] at h
      cases h
    | ok out' =>
      rw [hr] at h
      cases h
      obtain ⟨u, hu, hout⟩ := removeImports_ok hr
      exact ⟨table, visited, added, u, hs, rfl, rfl, hm, ⟨state, vs, hvisit⟩, ha, hu, hout⟩

theorem transform_stages {text : String} {m out : Module} (hp : Module.parse? text = some m)
    (h : (Session.fresh.transform text).result = .ok out) :
    ∃ table visited added u, m.scan = .ok table ∧ Stages (table.resolver m) m visited added out u := by
  obtain ⟨table, visited, added, u, hs, -, -, hstages⟩ := transform_run hp h
  exact ⟨table, visited, added, u, hs, hstages⟩

namespace Stages
variable {r : Resolver} {m visited added out : Module} {u : Usage} (h : Stages r m visited added out u)
include h

theorem edited : Edited r (.stmts m.body) (.stmts visited.body) := by
  obtain ⟨state, vs, hvisit⟩ := h.visit
  exact hvisit.edited

theorem added_gather {α : Type} {g : Gather α} (hg : g.Blind) (hi : g.Importless) : added.gather g = visited.gather g :=
  (addImports_importless hi hg h.added_ok).symm

theorem out_gather {α : Type} {g : Gather α} (hg : g.Blind) (hi : g.Importless) : out.gather g = visited.gather g := by
  rw [← h.added_gather hg hi, h.out_eq]
  exact (removeImports_importless hi u (.stmts added.body) []).symm

theorem out_noises : out.gather listening ⊆ m.gather listening := by
  rw [h.out_gather listening_blind listening_importless]
  exact h.edited.noises []

theorem added_noises : added.gather listening ⊆ m.gather listening := by
  rw [h.added_gather listening_blind listening_importless]
  exact h.edited.noises []

theorem out_steps : out.steps = added.steps.flatMap (Step.drop u) := by
  rw [h.out_eq]
  exact removeImports_steps u (.stmts added.body) []

theorem out_bindings : out.bindings = added.bindings.filter fun b => !u.dropsBinding b := by
  rw [Module.bindings, h.out_steps, drop_bindings]
  rfl

/-- The pass leaves import statements alone. -/
theorem visited_bindings : visited.bindings = m.bindings := by
  have hR : Piecewise fun xs ys : List Step => ys.flatMap Step.bindings = xs.flatMap Step.bindings :=
    ⟨rfl, fun h h' => by rw [List.flatMap_append, List.flatMap_append, h, h']⟩
  refine Edited.gather (P := fun _ _ => True) hR ⟨?_, fun _ _ _ _ => rfl, fun _ _ _ _ => rfl, fun _ _ => rfl⟩ h.edited []
    fun _ _ => trivial
  rintro s i i' - (rfl | hi)
  · rfl
  · show (i'.stmt.steps s).flatMap Step.bindings = (i.stmt.steps s).flatMap Step.bindings
    rw [hi.steps s, List.flatMap_append, storeStep_bindings, List.append_nil]

end Stages

end AttrsUpgrade
