import AttrsUpgrade.Proofs.FieldNames
import AttrsUpgrade.Proofs.NewNames
/-!
# New names and the imports asked for

The pass writes new names while it goes through the tree; the imports are asked for afterwards, from the text of the new tree.
The two agree: whatever assignment is replaced, either its new value calls a new name, and then the import of that name is asked
for, or it is something that stood in the old assignment (`Edited.scheduled`). This holds in every state of the session and also
where classes are put back (`introduced_names_are_scheduled`).
-/

namespace AttrsUpgrade

/-! ## What is introduced -/

/-- How the new `field` is called where `field` comes from `source`. -/
def NewName.ofSource (source : FieldSource) : NewName :=
  if source = none ∨ source = some packageName then .field else .packageField

theorem fieldFunc_ofSource (source : FieldSource) : fieldFunc source = (NewName.ofSource source).func := by
  unfold fieldFunc NewName.ofSource packageName
  by_cases h : source = none ∨ source = some "attrs"
  · simp only [if_pos h, NewName.func]
  · simp only [if_neg h, NewName.func]

/-- The new name that the value of a declaration calls, if it calls one. -/
def FieldArgs.newCall? (f : FieldArgs) (force : Bool) (source : FieldSource) : Option NewName :=
  if force || !f.others.isEmpty then some (.ofSource source)
  else if f.factoryFunc.isSome && f.factoryValue.isSome then some .factory
  else none

/-- The new name that comes in where an assignment is replaced, if one does. -/
def Small.newCall? (r : Resolver) (st : State) (x : Small) : Option NewName :=
  (x.assigned?.bind r.fieldCall?).bind fun call => x.target?.bind fun target =>
    (FieldArgs.parse call.args).newCall? (st.forces target) r.fieldSource

/-- The new statement assigns a call of `k`, or without `k` something of the old statement or nothing. -/
def Small.Introduces (x y : Small) : Option NewName → Prop
  | some k => ∃ args, y.assigned? = some (.call k.func "(" args ")")
  | none => ∀ e ∈ y.assigned?, e ∈ x.operands

section
variable {f : FieldArgs} {force : Bool} {source : FieldSource}

theorem FieldArgs.value?_of_newCall {k : NewName} {v : Option Expr} (hk : f.newCall? force source = some k)
    (hv : f.value? force source = .ok v) : ∃ args, v = some (.call k.func "(" args ")") := by
  unfold FieldArgs.newCall? at hk
  rcases FieldArgs.value?_cases hv with ⟨hneeds, rfl⟩ | ⟨hneeds, hv⟩
  · rw [FieldArgs.needsField] at hneeds
    rw [if_pos hneeds] at hk
    cases hk
    exact ⟨_, by rw [fieldFunc_ofSource]⟩
  · rw [FieldArgs.needsField] at hneeds
    rw [if_neg (by simp [hneeds])] at hk
    cases hvalue : f.factoryValue with
    | none => simp [hvalue] at hk
    | some w =>
      rcases hv with ⟨hfunc, -⟩ | ⟨hfunc, rfl⟩
      · simp [hfunc] at hk
      · rw [hvalue, Option.isSome_iff_ne_none.2 hfunc] at hk
        cases hk
        exact ⟨_, by rw [hvalue]; rfl⟩

theorem FieldArgs.value?_of_no_newCall {e : Expr} (hk : f.newCall? force source = none)
    (hv : f.value? force source = .ok (some e)) : f.simpleDefault = some e := by
  unfold FieldArgs.newCall? at hk
  rcases FieldArgs.value?_cases hv with ⟨hneeds, -⟩ | ⟨hneeds, ⟨-, he⟩ | ⟨hfunc, he⟩⟩
  · rw [FieldArgs.needsField] at hneeds
    simp [hneeds] at hk
  · exact he.symm
  · obtain ⟨w, hw, -⟩ := Option.map_eq_some_iff.1 he.symm
    rw [FieldArgs.needsField] at hneeds
    simp [hneeds, hw, hfunc] at hk

/-- What is built introduces what its value calls. -/
theorem FieldArgs.build_introduces {target : Expr} {hint : Option Hint} {x y : Small}
    (h : f.build target hint force source = .ok y) (htarget : target ∈ x.operands)
    (hdefault : ∀ e, f.simpleDefault = some e → e ∈ x.operands) : x.Introduces y (f.newCall? force source) := by
  -- a declaration without type and value assigns its own target
  have hvalue : ∃ v, f.value? force source = .ok v ∧ (y.assigned? = v ∨ v = none ∧ y.assigned? = some target) := by
    obtain ⟨v, hv, rfl⟩ := FieldArgs.build_eq_ok.1 h
    refine ⟨v, hv, ?_⟩
    cases hint with
    | none =>
      cases v with
      | none => exact .inr ⟨rfl, rfl⟩
      | some e => exact .inl rfl
    | some a => cases v <;> exact .inl rfl
  obtain ⟨v, hv, hy⟩ := hvalue
  cases hk : f.newCall? force source with
  | some k =>
    obtain ⟨args, rfl⟩ := FieldArgs.value?_of_newCall hk hv
    exact ⟨args, hy.resolve_right fun h => nomatch h.1⟩
  | none =>
    intro e he
    rcases hy with hy | ⟨-, hy⟩
    · rw [hy] at he
      cases he
      exact hdefault e (FieldArgs.value?_of_no_newCall hk hv)
    · rw [hy] at he
      cases he
      exact htarget

end

/-- Where an assignment is replaced, the new one introduces what it is said to. -/
theorem upgradeSmall?_introduces {r : Resolver} {st : State} {x y : Small} (h : upgradeSmall? r st x = .ok (some y)) :
    x.Introduces y (x.newCall? r st) := by
  obtain ⟨target, value, c, htarget, hvalue, hc, -, hbuild⟩ := upgradeSmall?_built h
  have hoperands := Small.operands_eq htarget hvalue (fieldCall?_eq_some hc).1
  have hnew : x.newCall? r st = (FieldArgs.parse c.args).newCall? (st.forces target) r.fieldSource := by
    simp [Small.newCall?, hvalue, htarget, hc]
  rw [hnew]
  refine FieldArgs.build_introduces hbuild ?_ fun e he => ?_
  · rw [hoperands]
    exact List.mem_cons_self
  · rw [hoperands]
    exact List.mem_cons_of_mem _ (simpleDefault_mem he)

/-! ## What is asked for -/

/-- The import that a new name takes. -/
def NewName.need : NewName → Need
  | .packageField => .package
  | k => .object k.path

/-- The import of a new name is asked for, or it is a factory and the module has its own from `attr`. -/
def NewName.Provided (k : NewName) (m : Module) (needs : List Need) : Prop :=
  k.need ∈ needs ∨
    k = .factory ∧ ∃ b ∈ m.bindings, b.origin = some "attr" ∧ b.imported.asName = none ∧ b.imported.path = "Factory"

/-- All that can be asked for, in the order it is asked for in. -/
def allNeeds : List Need := [.object "Factory", .object "define", .object "field", .package]

theorem Module.needs_sublist (m : Module) : m.needs.Sublist allNeeds := by
  have hopt : ∀ (c : Prop) [Decidable c] (n : Need), (if c then [n] else []).Sublist [n] := by
    intro c _ n
    by_cases hc : c
    · rw [if_pos hc]
    · rw [if_neg hc]
      exact List.nil_sublist _
  unfold Module.needs
  show List.Sublist _ ([Need.object "Factory"] ++ [Need.object "define"] ++ [Need.object "field"] ++ [Need.package])
  exact (((hopt _ _).append (List.Sublist.refl _)).append (hopt _ _)).append (hopt _ _)

theorem Module.define_mem_needs (m : Module) : NewName.define.need ∈ m.needs := by
  simp [Module.needs, NewName.need, NewName.path]

/-- A new name whose calls stand in the text of a module is provided for, here and in modules with the same imports. -/
theorem NewName.provided_of_holds {k : NewName} {m visited : Module} (himports : visited.imports = m.imports)
    (hholds : Text.holds visited.print (k.path ++ "(") = true)
    (hsource : k = .field → visited.fieldSource = none ∨ visited.fieldSource = some packageName) :
    k.Provided m visited.needs := by
  cases k with
  | define => exact .inl visited.define_mem_needs
  | field =>
    have hholds : Text.holds visited.print "field(" = true := hholds
    exact .inl (by simp [Module.needs, NewName.need, NewName.path, hholds, hsource])
  | packageField =>
    have hholds : Text.holds visited.print "attrs.field(" = true := hholds
    exact .inl (by simp [Module.needs, NewName.need, hholds])
  | factory =>
    have hholds : Text.holds visited.print "Factory(" = true := hholds
    by_cases hattr : "Factory" ∈ m.imports.names "attr"
    · exact .inr ⟨rfl, Module.exists_of_name (by decide) (Gathered.brings_of_names hattr)⟩
    · exact .inl (by simp [Module.needs, NewName.need, NewName.path, hholds, himports, hattr])

theorem Small.newCall?_field {r : Resolver} {st : State} {x : Small} (h : x.newCall? r st = some .field) :
    r.fieldSource = none ∨ r.fieldSource = some packageName := by
  obtain ⟨c, -, h⟩ := Option.bind_eq_some_iff.1 h
  obtain ⟨target, -, h⟩ := Option.bind_eq_some_iff.1 h
  unfold FieldArgs.newCall? at h
  split at h
  · unfold NewName.ofSource at h
    by_cases hsource : r.fieldSource = none ∨ r.fieldSource = some packageName
    · exact hsource
    · rw [if_neg hsource] at h
      cases h
  · split at h <;> cases h

/-! ## Edits -/

/-- The decorators of a module. -/
def decorating : Gather (Scope × Expr) where
  small _ _ := []
  func s h := h.decorators.map fun d => (s, d.expr)
  cls s h := h.decorators.map fun d => (s, d.expr)
  head _ _ := []

/-- A statement of `m` and what stands in its place in `visited`: itself, or a new declaration that introduces nothing or a name
that is provided for. -/
def Small.Settled (r : Resolver) (m visited : Module) (x y : Small) : Prop :=
  y = x ∨ ∃ st, upgradeSmall? r st x = .ok (some y) ∧ x.Introduces y (x.newCall? r st) ∧
    ∀ k ∈ x.newCall? r st, k.Provided m visited.needs

/-- Each name that comes in between two modules has its import asked for by the second. -/
structure Scheduled (r : Resolver) (m visited : Module) : Prop where
  /-- The declarations were made for the `field` that the second module has. -/
  source : r.fieldSource = visited.fieldSource
  declarations : List.Forall₂ (fun x y => y.1 = x.1 ∧ Small.Settled r m visited x.2 y.2) (m.gather placedSmalls)
    (visited.gather placedSmalls)
  decorators : List.Forall₂ (fun d d' => d'.1 = d.1 ∧ (d'.2 = d.2 ∨ NewName.define.Heads d'.2)) (m.gather decorating)
    (visited.gather decorating)
  define : NewName.define.need ∈ visited.needs
  order : visited.needs.Sublist allNeeds

theorem piecewise_forall₂ {α β : Type} (S : α → β → Prop) : Piecewise (List.Forall₂ S) :=
  ⟨.nil, fun h h' => List.rel_append h h'⟩

section
variable {r : Resolver} {m visited : Module}

theorem Edited.decorators {n n' : Node} (h : Edited r n n') (s : Scope) :
    List.Forall₂ (fun d d' => d'.1 = d.1 ∧ (d'.2 = d.2 ∨ NewName.define.Heads d'.2)) (n.gather decorating s)
      (n'.gather decorating s) := by
  have hheads : ∀ (s : Scope) {ds ds' : List Decorator}, List.Forall₂ (DecoratorEdit r) ds ds' →
      List.Forall₂ (fun d d' => d'.1 = d.1 ∧ (d'.2 = d.2 ∨ NewName.define.Heads d'.2)) (ds.map fun d => (s, d.expr))
        (ds'.map fun d => (s, d.expr)) := by
    intro s ds ds' hd
    rw [List.forall₂_map_left_iff, List.forall₂_map_right_iff]
    refine hd.imp fun d d' hd => ⟨rfl, ?_⟩
    rcases hd with rfl | hd
    · exact .inl rfl
    · exact .inr hd.new_name
  exact Edited.gather (P := fun _ _ => True) (piecewise_forall₂ _)
    ⟨fun _ _ _ _ _ => .nil, fun s _ _ hd => hheads s hd, fun s _ _ hd => hheads s hd, fun _ _ => .nil⟩ h s fun _ _ => trivial

/-- What a statement of a module assigns is placed there. -/
theorem Module.placed_of_small {s : Scope} {x : Small} {e : Expr} (h : (s, x) ∈ m.gather placedSmalls)
    (he : x.assigned? = some e) : (s, e) ∈ m.gather placing := by
  have hR : Piecewise fun (xs : List (Scope × Small)) (ys : List (Scope × Expr)) =>
      ∀ x ∈ xs, ∀ e ∈ x.2.assigned?, (x.1, e) ∈ ys := by
    refine ⟨fun _ hx => (nomatch hx), fun h h' x hx e he => ?_⟩
    rcases List.mem_append.1 hx with hx | hx
    · exact List.mem_append_left _ (h x hx e he)
    · exact List.mem_append_right _ (h' x hx e he)
  refine Node.gather_related hR ⟨?_, ?_, ?_⟩ ?_ (.stmts m.body) [] (s, x) h e he
  · exact fun _ _ _ hx => nomatch hx
  · exact fun _ _ _ hx => nomatch hx
  · exact fun _ _ _ hx => nomatch hx
  · intro s x y hy e he
    cases List.mem_singleton.1 hy
    exact List.mem_map_of_mem (Option.mem_toList.2 he)

variable (h : Edited r (.stmts m.body) (.stmts visited.body))
include h

/-- A name that comes in with a declaration of the second module is provided for. -/
theorem Edited.provided (hsource : r.fieldSource = m.fieldSource) {s : Scope} {x y : Small} {st : State}
    (hy : (s, y) ∈ visited.gather placedSmalls) (hintro : x.Introduces y (x.newCall? r st)) :
    ∀ k ∈ x.newCall? r st, k.Provided m visited.needs := by
  intro k hk
  rw [Option.mem_def] at hk
  rw [hk] at hintro
  obtain ⟨args, hassigned⟩ := hintro
  refine NewName.provided_of_holds h.imports (k.holds (Module.placed_of_small hy hassigned)) fun hfield => ?_
  subst hfield
  rw [h.fieldSource, ← hsource]
  exact Small.newCall?_field hk

/-- What the pass brings in, the module after it asks for. -/
theorem Edited.scheduled (hsource : r.fieldSource = m.fieldSource) : Scheduled r m visited where
  source := by rw [hsource, h.fieldSource]
  declarations := by
    -- that a name is asked for is read off the whole new text, so each new statement has to be known to stand in it
    have hR : Piecewise fun (xs ys : List (Scope × Small)) => ys ⊆ visited.gather placedSmalls →
        List.Forall₂ (fun x y => y.1 = x.1 ∧ Small.Settled r m visited x.2 y.2) xs ys := by
      refine ⟨fun _ => .nil, fun hx hx' hsub => ?_⟩
      obtain ⟨hys, hys'⟩ := List.append_subset.1 hsub
      exact List.rel_append (hx hys) (hx' hys')
    refine Edited.gather (P := fun _ _ => True) hR ⟨?_, ?_, ?_, ?_⟩ h [] (fun _ _ => trivial) (List.Subset.refl _)
    · rintro s i i' - hi hsub
      refine .cons ⟨rfl, ?_⟩ .nil
      rcases hi with rfl | hi
      · exact .inl rfl
      · obtain ⟨st, hst⟩ := hi.new
        have hintro := upgradeSmall?_introduces hst
        exact .inr ⟨st, hst, hintro, h.provided hsource (hsub (List.mem_singleton_self _)) hintro⟩
    · exact fun _ _ _ _ _ => .nil
    · exact fun _ _ _ _ _ => .nil
    · exact fun _ _ _ => .nil
  decorators := Edited.decorators h []
  define := visited.define_mem_needs
  order := visited.needs_sublist

end

/-! ## Runs -/

/-- Whenever the pass gets through a module, whatever the session was left with by the modules before it, each name that it
introduced has its import asked for, and what the module asks for comes after what was asked for before. -/
theorem introduced_names_are_scheduled {s : Session} {m visited : Module} (h : (s.transformModule m).visited = some visited) :
    ∃ table state, m.scan = .ok table ∧ Pass.Ok (visitModule (table.resolver m) m) s.state visited state ∧
      Scheduled (table.resolver m) m visited ∧ (s.transformModule m).session.needs = s.needs ++ visited.needs := by
  unfold Session.transformModule at h ⊢
  cases hscan : m.scan with
  | error e =>
    rw [hscan] at h
    cases h
  | ok table =>
    simp only [hscan] at h ⊢
    rcases hv : (visitModule (table.resolver m) m).run.run s.state with ⟨_ | v, state⟩
    · rw [hv] at h
      cases h
    · simp only [hv] at h ⊢
      obtain ⟨hsession, hvisited⟩ := Session.finish_session { s with state } v
      cases hvisited.symm.trans h
      obtain ⟨vs, hvisit, -⟩ := visit_of_module hv
      exact ⟨table, state, rfl, hv, hvisit.edited.scheduled rfl, congrArg Session.needs hsession⟩

/-- A session after a module that ended in an untyped class. -/
def staleSession : Session := ⟨⟨true, some "Z", false, ["a"], false, ["Z"]⟩, [.object "define"]⟩

/-- A class that is put back, and one with a new `field` and a new `Factory`. -/
def bothText : String :=
  "import attr\nclass A:\n a = attr.ib()\n@attr.s\nclass B:\n" ++
    " a = attr.ib(type=int, init=False)\n b = attr.ib(type=list, default=attr.Factory(list))\n"

theorem stale_session_schedules_both : ∃ m visited table, Module.parse? bothText = some m ∧
    (staleSession.transformModule m).visited = some visited ∧ m.scan = .ok table ∧ Scheduled (table.resolver m) m visited ∧
    (∀ k ∈ [NewName.field, .factory], ∃ y ∈ visited.gather placing, k.Heads y.2) ∧
    (staleSession.transformModule m).session.needs =
      [.object "define", .object "Factory", .object "define", .object "field"] := by
  have heval : ((Module.parse? bothText).bind fun m => (staleSession.transformModule m).visited.map fun visited => decide (
      (∀ k ∈ [NewName.field, .factory], ∃ y ∈ visited.gather placing, k.Heads y.2) ∧
      visited.needs = [.object "Factory", .object "define", .object "field"])) = some true := by
    decide +kernel
  obtain ⟨m, hp, heval⟩ := Option.bind_eq_some_iff.1 heval
  obtain ⟨visited, hv, heval⟩ := Option.map_eq_some_iff.1 heval
  obtain ⟨hheads, hneeds⟩ := of_decide_eq_true heval
  obtain ⟨table, -, hscan, -, hscheduled, hsession⟩ := introduced_names_are_scheduled hv
  refine ⟨m, visited, table, hp, hv, hscan, hscheduled, hheads, ?_⟩
  rw [hsession, hneeds]
  rfl

end AttrsUpgrade
