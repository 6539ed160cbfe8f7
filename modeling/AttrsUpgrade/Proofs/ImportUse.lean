import AttrsUpgrade.Proofs.NewNames
import AttrsUpgrade.Proofs.Settled
/-!
# Imports that are used

A module uses an import if it exports or quotes a name that the import binds, or refers to what the import itself binds
(`Module.UsesImport`). The pass that takes imports out asks something else: whether the name is mentioned, or some import of that
name is referred to that can be seen where this one stands (`Usage.inUse`). The two agree on an import that alone binds its name
in its scope (`Module.Alone.usesImport_iff`).
-/

namespace AttrsUpgrade

/-! ## Uses -/

/-- An assignment that an import makes: to a name that it binds, where that goes to, by a statement that names it. -/
def Binding.Makes (t : Table) (b : Binding) (a : Assignment) : Prop :=
  a.name ∈ b.imported.bound ∧ a.scope = t.home a.name b.scope ∧
    ∃ i ∈ a.source, i.origin = b.origin.getD "" ∧ b.imported.imported ∈ i.names

instance (t : Table) (b : Binding) (a : Assignment) : Decidable (b.Makes t a) := inferInstanceAs (Decidable (_ ∧ _ ∧ _))

/-- A name that the import binds is exported or quoted, or some access refers to the import. -/
def Module.UsesImport (m : Module) (b : Binding) : Prop :=
  (∃ name ∈ b.imported.bound, name ∈ m.mentioned) ∨ ∃ x ∈ m.table.accesses, ∃ a ∈ m.table.references x, b.Makes m.table a

instance (m : Module) (b : Binding) : Decidable (m.UsesImport b) := inferInstanceAs (Decidable (_ ∨ _))

theorem Usage.inUse_iff (u : Usage) (s : Scope) (name : String) : u.inUse s name = true ↔ name ∈ u.mentioned ∨
    ∃ a ∈ u.table.lookup s name, a.source.isSome = true ∧ ∃ x ∈ u.table.accesses, a ∈ u.table.references x := by
  simp only [Usage.inUse, Table.importInUse, Table.isReferenced, Bool.or_eq_true, List.contains_iff_mem, List.any_eq_true,
    Bool.and_eq_true]

/-! ## Names without dots -/

theorem DottedName.beginnings_of_plain {d : DottedName} (h : '.' ∉ d.path.toList) : d.beginnings = [d.path] := by
  obtain ⟨head, tail⟩ := d
  cases tail with
  | nil => simp [DottedName.beginnings, DottedName.path, DottedName.names, List.range_succ, joinWith]
  | cons part tail => simp [DottedName.path, DottedName.names, joinWith] at h

section
variable {a : Alias} (ha : a.asName = none) (hdot : '.' ∉ a.path.toList)
include ha hdot

theorem Alias.imported_of_plain : a.imported = ⟨[a.path], none⟩ := by
  rw [Alias.imported, Alias.renamed?, ha, DottedName.beginnings_of_plain hdot]
  rfl

theorem Alias.bound_of_plain : a.bound = [a.path] := by
  rw [Alias.bound, Alias.renamed?, ha]
  exact DottedName.beginnings_of_plain hdot

end

/-! ## Names that are not declared -/

def Bind.declares {α : Type} (name : String) : Bind α → Bool
  | .assign _ _ _ => false
  | .declare _ _ n => n = name

/-- A name that is not declared is bound where it is assigned to. -/
theorem Names.foldl_undeclared {α : Type} {name : String} (bs : List (Bind α)) : ∀ v : Names α,
    (∀ r ∈ v.redirects, r.name ≠ name) → (∀ b ∈ bs, b.declares name = false) →
    (∀ r ∈ (bs.foldl Names.bind v).redirects, r.name ≠ name) ∧ ∀ s source,
      ⟨name, s, source⟩ ∈ (bs.foldl Names.bind v).keys ↔ ⟨name, s, source⟩ ∈ v.keys ∨ .assign s name source ∈ bs := by
  induction bs with
  | nil => exact fun v hv _ => ⟨hv, fun _ _ => by simp⟩
  | cons b bs ih =>
    intro v hv hbs
    rw [List.forall_mem_cons] at hbs
    obtain ⟨hb, hrest⟩ := hbs
    cases b with
    | assign s' name' source' =>
      obtain ⟨hredirects, hkeys⟩ := ih (v.bind (.assign s' name' source')) hv hrest
      refine ⟨hredirects, fun s source => ?_⟩
      have hhome : homeIn v.redirects name s' = s' := by
        have hnone : (v.redirects.find? fun r => r.scope = s' ∧ r.name = name) = none :=
          List.find?_eq_none.2 fun r hr => by simp [hv r hr]
        rw [homeIn, hnone]
        rfl
      rw [List.foldl_cons, hkeys, Names.bind, List.mem_cons, List.mem_cons, or_assoc]
      constructor
      · rintro (he | hold | hlater)
        · cases he
          exact .inr (.inl (by rw [hhome]))
        · exact .inl hold
        · exact .inr (.inr hlater)
      · rintro (hold | he | hlater)
        · exact .inr (.inl hold)
        · cases he
          exact .inl (by rw [hhome])
        · exact .inr (.inr hlater)
    | declare s' reach name' =>
      have hname : name' ≠ name := of_decide_eq_false hb
      have hv' : ∀ r ∈ (v.bind (.declare s' reach name')).redirects, r.name ≠ name := by
        cases s' with
        | nil => exact hv
        | cons f fs => exact List.forall_mem_cons.2 ⟨hname, hv⟩
      obtain ⟨hredirects, hkeys⟩ := ih _ hv' hrest
      refine ⟨hredirects, fun s source => ?_⟩
      have hsame : (v.bind (.declare s' reach name')).keys = v.keys := by cases s' <;> rfl
      rw [List.foldl_cons, hkeys, hsame]
      simp

section
variable {N : Effect → Prop} {m : Module} (hq : m.Quiet N) {name : String} (hname : ¬N (.loud name))
variable (hd : ∀ b ∈ m.binds, b.declares name = false)
include hq hname hd

theorem Module.reach?_undeclared (s : Scope) : m.table.reach? s name = none := by
  obtain ⟨hredirects, -⟩ := Names.foldl_undeclared (spared N m.binds) ((Table.empty m.sites).names N)
    (fun r hr => absurd hr List.not_mem_nil) fun b hb => hd b (List.mem_of_mem_filter hb)
  rw [← (Module.table_goes hq).names] at hredirects
  rw [← reach?_names m.table hname, Option.map_eq_none_iff, List.find?_eq_none]
  intro r hr
  simp [hredirects r hr]

theorem Module.home_undeclared (s : Scope) : m.table.home name s = s := by
  rw [Table.home, Module.reach?_undeclared hq hname hd]

/-- What is assigned to it in a scope of a function or class is what the steps of the module assign there. -/
theorem Module.own_undeclared (s : Scope) (source : Option ImportSource) :
    (s.isNamed = true ∧ ∃ a ∈ m.table.own s name, a.source = source) ↔ .assign s name source ∈ m.binds := by
  obtain ⟨-, hkeys⟩ := Names.foldl_undeclared (spared N m.binds) ((Table.empty m.sites).names N)
    (fun r hr => absurd hr List.not_mem_nil) fun b hb => hd b (List.mem_of_mem_filter hb)
  rw [← (Module.table_goes hq).names] at hkeys
  have hspared : .assign s name source ∈ spared N m.binds ↔ .assign s name source ∈ m.binds := by
    simp [spared, Bind.name, hname]
  have hkey : ⟨name, s, source⟩ ∈ (m.table.names N).keys ↔ .assign s name source ∈ spared N m.binds :=
    (hkeys s source).trans (or_iff_right List.not_mem_nil)
  rw [← hspared, ← hkey]
  simp only [Table.names, List.mem_map, List.mem_filter, decide_eq_true_eq, Assignment.key, Key.mk.injEq, Table.own]
  constructor
  · rintro ⟨hs, a, ⟨ha, rfl, rfl⟩, rfl⟩
    exact ⟨a, ⟨ha, hs, hname⟩, rfl, rfl, rfl⟩
  · rintro ⟨a, ⟨ha, hs, -⟩, rfl, rfl, rfl⟩
    exact ⟨hs, a, ⟨ha, rfl, rfl⟩, rfl⟩

end

/-- Assignments that are no imports have no source. -/
def Step.Sourceless (x : Step) : Prop := ∀ s name source, x = .bind (.assign s name source) → source = none

theorem storeStep_sourceless (s : Scope) (names : List String) : ∀ x ∈ storeStep s names, x.Sourceless := by
  intro x hx s' name source he
  obtain ⟨n, -, rfl⟩ := List.mem_map.1 hx
  cases he
  rfl

theorem importStep_sourceless (bs : List Binding) : ∀ x ∈ importStep bs, x.Sourceless := by
  intro x hx s name source he
  cases bs with
  | nil => cases hx
  | cons =>
    cases List.mem_singleton.1 hx
    cases he

theorem Header.steps_sourceless (h : Header) (s : Scope) : ∀ x ∈ h.steps s, x.Sourceless := by
  cases h with
  | word | test => exact fun _ hx => absurd hx List.not_mem_nil
  | _ => exact storeStep_sourceless _ _

theorem Small.steps_sourceless (x : Small) (s : Scope) : ∀ y ∈ x.steps s, y.Sourceless := by
  cases x with
  | importNames | importFrom => exact importStep_sourceless _
  | declare reach o names =>
    intro y hy s' name source he
    obtain ⟨n, -, rfl⟩ := List.mem_map.1 hy
    cases he
  | expr | plain => exact fun _ hx => absurd hx List.not_mem_nil
  | _ => exact storeStep_sourceless _ _

/-- Only import statements bind names to something that is imported. -/
theorem Module.steps_sourceless (m : Module) : ∀ x ∈ m.steps, x.Sourceless := by
  have hR : Piecewise fun xs _ : List Step => ∀ x ∈ xs, x.Sourceless :=
    ⟨fun _ hx => absurd hx List.not_mem_nil, fun h h' => List.forall_mem_append.2 ⟨h, h'⟩⟩
  have hheads : HeadsRelated (fun xs _ : List Step => ∀ x ∈ xs, x.Sourceless) stepping stepping :=
    ⟨fun _ _ => List.forall_mem_append.2 ⟨storeStep_sourceless _ _, storeStep_sourceless _ _⟩,
      fun _ _ => storeStep_sourceless _ _, fun s h => h.steps_sourceless s⟩
  exact Node.gather_related hR hheads (fun s x => x.steps_sourceless s) (.stmts m.body) []

/-! ## Imports that are alone -/

/-- No other import binds the name in the scope, and neither declarations nor expressions interfere with it. -/
structure Module.Alone (m : Module) (b : Binding) : Prop where
  only : ∀ b' ∈ m.bindings, b'.scope = b.scope → b.imported.path ∈ b'.imported.bound → b' = b
  undeclared : ∀ x ∈ m.binds, x.declares b.imported.path = false
  quiet : ¬m.Makes (.loud b.imported.path)

namespace Module.Alone
variable {m : Module} {b : Binding} (h : m.Alone b) (hb : b ∈ m.bindings) (hbound : b.imported.bound = [b.imported.path])
include h hb hbound

/-- The name is assigned to in the scope of the import. -/
theorem own_ne_nil : b.scope.isNamed = true ∧ m.table.own b.scope b.imported.path ≠ [] := by
  obtain ⟨bs, hx, -, hassign⟩ := exists_bind_of_binding hb (hbound ▸ List.mem_singleton_self _)
  obtain ⟨hnamed, a, ha, -⟩ := (Module.own_undeclared m.quiet_makes h.quiet h.undeclared b.scope _).2
    (List.mem_flatMap.2 ⟨_, hx, hassign⟩)
  exact ⟨hnamed, List.ne_nil_of_mem ha⟩

/-- So the look-up from there ends there. -/
theorem lookup_eq : m.table.lookup b.scope b.imported.path = m.table.own b.scope b.imported.path := by
  have hreach := Module.reach?_undeclared m.quiet_makes h.quiet h.undeclared b.scope
  have hown := (h.own_ne_nil hb hbound).2
  cases hs : b.scope with
  | nil => rfl
  | cons f fs =>
    rw [hs] at hreach hown
    rw [Table.lookup, Table.lookupFrom, hreach]
    simp only [Bool.false_and, Bool.false_eq_true, if_false]
    rw [if_neg (by simpa using hown)]

/-- The imports of the name that it finds are this one. -/
theorem makes_iff (a : Assignment) : b.Makes m.table a ∧ a ∈ m.table.assignments ↔
    a ∈ m.table.lookup b.scope b.imported.path ∧ a.source.isSome = true := by
  have hhome := Module.home_undeclared m.quiet_makes h.quiet h.undeclared b.scope
  rw [h.lookup_eq hb hbound]
  constructor
  · rintro ⟨⟨hname, hscope, i, hi, -, -⟩, ha⟩
    rw [hbound, List.mem_singleton] at hname
    rw [hname, hhome] at hscope
    exact ⟨List.mem_filter.2 ⟨ha, decide_eq_true ⟨hname, hscope⟩⟩, Option.isSome_of_mem hi⟩
  · rintro ⟨ha, hsome⟩
    obtain ⟨hmem, hname, hscope⟩ := List.mem_filter.1 ha |>.imp_right of_decide_eq_true
    have hnamed := (h.own_ne_nil hb hbound).1
    obtain ⟨x, hx, hbind⟩ := List.mem_flatMap.1
      ((Module.own_undeclared m.quiet_makes h.quiet h.undeclared b.scope a.source).1 ⟨hnamed, a, ha, rfl⟩)
    cases x with
    | bind c =>
      rw [m.steps_sourceless _ hx _ _ _ (congrArg Step.bind (List.mem_singleton.1 hbind).symm)] at hsome
      cases hsome
    | imports bs =>
      obtain ⟨b', hb', hn, hs, hsource⟩ := assign_mem_binds.1 hbind
      obtain rfl := h.only b' (List.mem_flatMap.2 ⟨_, hx, hb'⟩) hs.symm hn
      refine ⟨⟨hname ▸ hn, ?_, _, hsource, rfl, List.mem_map_of_mem hb'⟩, hmem⟩
      rw [hname, hhome, hscope]

/-- An import that alone binds its name in its scope is used if and only if its name is in use there. -/
theorem usesImport_iff : m.UsesImport b ↔ m.usage.inUse b.scope b.imported.path = true := by
  rw [Usage.inUse_iff, Module.UsesImport, hbound]
  simp only [List.mem_singleton, exists_eq_left]
  refine or_congr Iff.rfl ⟨?_, ?_⟩
  · rintro ⟨x, hx, a, ha, hm⟩
    obtain ⟨s, hs⟩ := Table.lookup_of_references ha
    obtain ⟨hfound, hsome⟩ := (h.makes_iff hb hbound a).1 ⟨hm, (Table.mem_lookup hs).1⟩
    exact ⟨a, hfound, hsome, x, hx, ha⟩
  · rintro ⟨a, hfound, hsome, x, hx, ha⟩
    exact ⟨x, hx, a, ha, ((h.makes_iff hb hbound a).2 ⟨hfound, hsome⟩).1⟩

end Module.Alone

end AttrsUpgrade
