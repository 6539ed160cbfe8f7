import AttrsUpgrade.Proofs.Meaning
import AttrsUpgrade.Proofs.Openings
/-!
# What new names mean

The pass writes `define`, `field`, `attrs.field` and `Factory` (`NewName`), and otherwise only what stood in the assignments it
replaces (`Stages.out_new`). A new name means what it is to mean if nothing else in the module is bound to it (`NewName.Free`) and
the imports stand at the top: its import is added or there already (`Stages.binding_added`), it is in use and hence not removed
(`Stages.binding_stays`), and it is the only thing the name can stand for (`Stages.out_sole`).
-/

namespace AttrsUpgrade

/-! ## Paths with one source -/

/-- What assigns to a beginning of the path is an import statement, and `b` the only one of its names that the path begins
with. -/
def Sole (path : String) (b : Binding) (xs : List Step) : Prop :=
  ∀ x ∈ xs, ∀ s name source, .assign s name source ∈ x.binds → name ∈ pathBeginnings path →
    ∃ bs, x = .imports bs ∧ ∀ b' ∈ bs, b'.concerns path = true → b' = b

theorem concerns_of_bound {path name : String} {b : Binding} (hname : name ∈ b.imported.bound)
    (hpath : name ∈ pathBeginnings path) : b.concerns path = true :=
  List.any_eq_true.2 ⟨name, hname, isPrefix_of_mem_pathBeginnings hpath⟩

theorem assign_mem_binds {bs : List Binding} {s : Scope} {name : String} {source : Option ImportSource} :
    .assign s name source ∈ Step.binds (.imports bs) ↔ ∃ b ∈ bs, name ∈ b.imported.bound ∧ s = b.scope ∧
      source = some ⟨b.origin.getD "", bs.map fun b => b.imported.imported⟩ := by
  simp only [Step.binds, List.mem_flatMap, List.mem_map]
  constructor
  · rintro ⟨b, hb, n, hn, he⟩
    cases he
    exact ⟨b, hb, hn, rfl, rfl⟩
  · rintro ⟨b, hb, hn, rfl, rfl⟩
    exact ⟨b, hb, name, hn, rfl⟩

namespace Sole
variable {path : String} {b : Binding} {xs ys : List Step}

theorem mono (h : Sole path b xs) (hs : ys ⊆ xs) : Sole path b ys := fun x hx => h x (hs hx)

theorem drop (h : Sole path b xs) (u : Usage) : Sole path b (xs.flatMap (Step.drop u)) := by
  intro x' hx' s name source hbind hname
  obtain ⟨x, hx, hx'⟩ := List.mem_flatMap.1 hx'
  cases x with
  | bind c =>
    cases List.mem_singleton.1 hx'
    exact h _ hx s name source hbind hname
  | imports bs =>
    have hx' : x' = .imports (bs.filter fun b => !u.dropsBinding b) := by
      rw [Step.drop] at hx'
      cases hf : bs.filter fun b => !u.dropsBinding b with
      | nil =>
        rw [hf] at hx'
        cases hx'
      | cons c cs =>
        rw [hf] at hx'
        exact List.mem_singleton.1 hx'
    subst hx'
    obtain ⟨c, hc, hn, -, -⟩ := assign_mem_binds.1 hbind
    obtain ⟨bs', he, hall⟩ := h _ hx _ name _ (assign_mem_binds.2 ⟨c, (List.mem_filter.1 hc).1, hn, rfl, rfl⟩) hname
    cases he
    exact ⟨_, rfl, fun b' hb' => hall b' (List.mem_filter.1 hb').1⟩

theorem grow {new : Binding → Prop} (hg : StepsGrow new xs ys) (h : Sole path b xs)
    (hnew : ∀ b' ∈ ys.flatMap Step.bindings, new b' → b'.concerns path = true → b' = b)
    (hpackage : ∀ b' ∈ xs.flatMap Step.bindings, b'.origin = some packageName → b'.concerns path = true → b' = b) :
    Sole path b ys := by
  induction hg with
  | nil => exact h
  | same x _ ih =>
    intro y hy
    rcases List.mem_cons.1 hy with rfl | hy
    · exact h y List.mem_cons_self
    · exact ih (h.mono (List.subset_cons_self _ _)) (fun b' hb' => hnew b' (List.mem_append_right _ hb'))
        (fun b' hb' => hpackage b' (List.mem_append_right _ hb')) y hy
  | @more bs bs' _ _ ho hbs' _ ih =>
    intro y hy s name source hbind hname
    rcases List.mem_cons.1 hy with rfl | hy
    · -- new names in an import from the package: its old names must not begin the path either
      refine ⟨_, rfl, fun b' hb' hc => ?_⟩
      rcases List.mem_append.1 hb' with hb' | hb'
      · exact hnew b' (List.mem_append_left _ (List.mem_append_left _ hb')) (hbs' b' hb') hc
      · exact hpackage b' (List.mem_append_left _ hb') (ho b' hb') hc
    · exact ih (h.mono (List.subset_cons_self _ _)) (fun b' hb' => hnew b' (List.mem_append_right _ hb'))
        (fun b' hb' => hpackage b' (List.mem_append_right _ hb')) y hy s name source hbind hname
  | @insert bs _ _ hbs _ ih =>
    intro y hy s name source hbind hname
    rcases List.mem_cons.1 hy with rfl | hy
    · exact ⟨_, rfl, fun b' hb' => hnew b' (List.mem_append_left _ hb') (hbs b' hb')⟩
    · exact ih h (fun b' hb' => hnew b' (List.mem_append_right _ hb')) hpackage y hy s name source hbind hname

/-- A binding that binds a beginning of the path is the sole one. -/
theorem eq_of_bound (h : Sole path b xs) {b' : Binding} (hb' : b' ∈ xs.flatMap Step.bindings) {name : String}
    (hname : name ∈ b'.imported.bound) (hpath : name ∈ pathBeginnings path) : b' = b := by
  obtain ⟨bs, hx, hbs, hbind⟩ := exists_bind_of_binding hb' hname
  obtain ⟨bs', he, hall⟩ := h _ hx _ name _ hbind hpath
  cases he
  exact hall b' hbs (concerns_of_bound hname hpath)

end Sole

theorem find?_eq_of_unique {α : Type} {p : α → Bool} {xs : List α} {x : α} (hx : x ∈ xs) (hp : p x = true)
    (hunique : ∀ y ∈ xs, p y = true → y = x) : xs.find? p = some x := by
  cases hf : xs.find? p with
  | none => exact absurd hp (List.find?_eq_none.1 hf x hx)
  | some y => rw [hunique y (List.mem_of_find?_eq_some hf) (List.find?_some hf)]

section
variable {N : Effect → Prop} {path base : String} {b : Binding} {m : Module}
variable (hq : m.Quiet N) (hinner : ∀ name ∈ pathBeginnings path, ¬N (.loud name) ∧ ¬N (.inner name))
variable (hsole : Sole path b m.steps)
variable (hscope : b.scope = []) (hbound : b.imported.bound = [base]) (hbase : base ∈ pathBeginnings path)
include hq hinner hsole hscope hbound

/-- Only the sole source is assigned to a beginning of the path. -/
theorem Sole.assigned {a : Assignment} (ha : a ∈ m.table.assignments) (hname : a.name ∈ pathBeginnings path) :
    a.name = base ∧ a.scope = [] ∧
      ∀ q, q ∈ a.qualify path ↔ b.imported.imported.qualify? (b.origin.getD "") path = some q := by
  rcases (Module.table_goes hq).assigned a ha with ha | hloud | ⟨-, hN⟩ | ⟨s, hbind, -, hs⟩
  · cases ha
  · exact absurd hloud (hinner _ hname).1
  · exact absurd hN (hinner _ hname).2
  · obtain ⟨x, hx, hbind⟩ := List.mem_flatMap.1 hbind
    obtain ⟨bs, rfl, hall⟩ := hsole x hx s a.name a.source hbind hname
    obtain ⟨b', hb', hn, rfl, hsource⟩ := assign_mem_binds.1 hbind
    obtain rfl : b' = b := hall b' hb' (concerns_of_bound hn hname)
    rw [hbound] at hn
    refine ⟨List.mem_singleton.1 hn, hs hscope, fun q => ?_⟩
    -- an assignment is qualified by all names of its import statement, but the others say nothing of the path
    rw [Assignment.qualify, hsource]
    simp only [List.mem_filterMap, List.mem_map]
    constructor
    · rintro ⟨n, ⟨c, hc, rfl⟩, hqual⟩
      cases hconcerns : c.concerns path with
      | true => rwa [hall c hc hconcerns] at hqual
      | false =>
        rw [qualify?_eq_none hconcerns] at hqual
        cases hqual
    · intro hqual
      exact ⟨_, ⟨b', hb', rfl⟩, hqual⟩

include hbase

theorem Sole.lookup_eq (s : Scope) : m.table.lookup s base = m.table.own [] base :=
  Table.lookup_top (fun _ ha hname => (Sole.assigned hq hinner hsole hscope hbound ha (hname ▸ hbase)).2.1) s

variable (hb : b ∈ m.bindings)
include hb

theorem Sole.lookup_ne_nil (s : Scope) : m.table.lookup s base ≠ [] := by
  have hname : base ∈ b.imported.bound := hbound ▸ List.mem_singleton_self _
  obtain ⟨bs, hx, -, hbind⟩ := exists_bind_of_binding hb hname
  rw [hscope] at hbind
  obtain ⟨a, ha, -⟩ := (Module.table_goes hq).made base _ (List.mem_flatMap.2 ⟨_, hx, hbind⟩)
  rw [Sole.lookup_eq hq hinner hsole hscope hbound hbase]
  exact List.ne_nil_of_mem ha

/-- Of the beginnings of the path only the source is found. -/
theorem Sole.find_eq (s : Scope) : (pathBeginnings path).find? (fun name => !(m.table.lookup s name).isEmpty) = some base := by
  refine find?_eq_of_unique hbase ?_ fun name hname hfound => ?_
  · simpa using Sole.lookup_ne_nil hq hinner hsole hscope hbound hbase hb s
  · have hfound : m.table.lookup s name ≠ [] := by simpa using hfound
    obtain ⟨a, hlookup⟩ := List.exists_mem_of_ne_nil _ hfound
    obtain ⟨ha, rfl⟩ := Table.mem_lookup hlookup
    exact (Sole.assigned hq hinner hsole hscope hbound ha hname).1

/-- The path means what its source says, in every scope. -/
theorem Sole.mem_qualifiedNames (s : Scope) (q : String) :
    q ∈ m.table.qualifiedNames s path ↔ b.imported.imported.qualify? (b.origin.getD "") path = some q := by
  rw [Table.qualifiedNames, Sole.find_eq hq hinner hsole hscope hbound hbase hb s]
  have hqualify : ∀ a ∈ m.table.lookup s base, ∀ q, q ∈ a.qualify path ↔
      b.imported.imported.qualify? (b.origin.getD "") path = some q := by
    intro a ha
    obtain ⟨ha, hname⟩ := Table.mem_lookup ha
    exact (Sole.assigned hq hinner hsole hscope hbound ha (hname ▸ hbase)).2.2
  constructor
  · intro hmem
    obtain ⟨a, ha, hqual⟩ := List.mem_flatMap.1 hmem
    exact (hqualify a ha q).1 hqual
  · intro hqual
    obtain ⟨a, ha⟩ := List.exists_mem_of_ne_nil _ (Sole.lookup_ne_nil hq hinner hsole hscope hbound hbase hb s)
    exact List.mem_flatMap.2 ⟨a, ha, (hqualify a ha q).2 hqual⟩

theorem Sole.accessed_eq {x : Access} (hpaths : x.paths = pathBeginnings path) : m.table.accessed x = base := by
  rw [Table.accessed, hpaths, Sole.find_eq hq hinner hsole hscope hbound hbase hb]
  rfl

end

/-! ## New names -/

/-- What the pass writes names for. -/
inductive NewName where
  | define
  | field
  /-- The field of the package, where `field` alone is something else. -/
  | packageField
  | factory
deriving DecidableEq

namespace NewName

/-- How it is written. -/
def func : NewName → Expr
  | .define => .name (newName "define")
  | .field => .name (newName "field")
  | .packageField => .attribute (.name (newName "attrs")) "." (newName "field")
  | .factory => .name (newName "Factory")

def path : NewName → String
  | .define => "define"
  | .field => "field"
  | .packageField => "attrs.field"
  | .factory => "Factory"

/-- The name that has to be imported for it. -/
def base : NewName → String
  | .packageField => "attrs"
  | k => k.path

/-- An expression that is a call of it. A decorator need not be a call. -/
def Heads (k : NewName) (e : Expr) : Prop := (∃ args, e = .call k.func "(" args ")") ∨ k = .define ∧ e = k.func

def isFunc (k : NewName) : Expr → Bool
  | .name n => k ≠ .packageField ∧ n = newName k.path
  | .attribute (.name n) dot a => k = .packageField ∧ n = newName "attrs" ∧ dot = "." ∧ a = newName "field"
  | _ => false

theorem isFunc_iff {k : NewName} {e : Expr} : k.isFunc e = true ↔ e = k.func := by
  constructor
  · intro h
    unfold isFunc at h
    split at h
    · obtain ⟨hk, rfl⟩ := of_decide_eq_true h
      cases k with
      | packageField => exact absurd rfl hk
      | define | field | factory => rfl
    · obtain ⟨rfl, rfl, rfl, rfl⟩ := of_decide_eq_true h
      rfl
    · cases h
  · rintro rfl
    cases k <;> decide

def heads (k : NewName) : Expr → Bool
  | .call f o _ c => k.isFunc f && decide (o = "(" ∧ c = ")")
  | e => k = .define && k.isFunc e

theorem heads_iff {k : NewName} {e : Expr} : k.heads e = true ↔ k.Heads e := by
  cases e with
  | call f o args c =>
    have hfunc : ∀ k' : NewName, Expr.call f o args c ≠ k'.func := by
      intro k'
      cases k' <;> exact fun h => nomatch h
    simp [heads, Heads, isFunc_iff, hfunc]
  | _ => simp [heads, Heads, isFunc_iff]

instance (k : NewName) (e : Expr) : Decidable (k.Heads e) := decidable_of_iff _ heads_iff

variable (m : Module)

/-- Where it comes from in a module: the package, but for a factory that is imported from `attr`. -/
def origin : NewName → String
  | .factory => if "Factory" ∈ m.imports.names "attr" then "attr" else packageName
  | _ => packageName

/-- What it is to mean. -/
def meaning : NewName → String
  | .packageField => "attrs.field"
  | k => k.origin m ++ "." ++ k.path

/-- The import that gives it this meaning. -/
def binding : NewName → Binding
  | .packageField => ⟨[], none, .ofName packageName⟩
  | k => ⟨[], some (k.origin m), .ofName k.path⟩

/-- Nothing but its import is bound to the name, and the import does not come late. -/
structure Free (m : Module) (rest : List Stmt) (k : NewName) : Prop where
  quiet : ∀ name ∈ pathBeginnings k.path, ¬m.Makes (.loud name) ∧ ¬m.Makes (.inner name)
  sole : Sole k.path (k.binding m) m.steps
  package : ∀ b ∈ m.bindings, b.origin = some packageName → b.concerns k.path = true → b = k.binding m
  early : k.binding m ∉ stmtBindings rest

variable {m} (k : NewName)

theorem binding_scope : (k.binding m).scope = [] := by cases k <;> rfl

theorem binding_bound : (k.binding m).imported.bound = [k.base] := by cases k <;> exact Alias.bound_ofName _

theorem base_mem : k.base ∈ pathBeginnings k.path := by cases k <;> decide +kernel

theorem headPaths_eq {e : Expr} (h : k.Heads e) : e.headPaths? = some (pathBeginnings k.path) := by
  have hfunc : k.func.headPaths? = some (pathBeginnings k.path) := by cases k <;> decide +kernel
  rcases h with ⟨args, rfl⟩ | ⟨-, rfl⟩
  · exact hfunc
  · exact hfunc

theorem fullName_eq {e : Expr} (h : k.Heads e) : e.fullName? = some k.path := by
  rcases h with ⟨args, rfl⟩ | ⟨rfl, rfl⟩
  · cases k <;> rfl
  · rfl

theorem binding_qualify :
    (k.binding m).imported.imported.qualify? ((k.binding m).origin.getD "") k.path = some (k.meaning m) := by
  cases k with
  | factory =>
    simp only [binding, meaning, origin, path]
    split <;> decide +kernel
  | _ =>
    simp only [binding, meaning, origin, path]
    decide +kernel

theorem binding_congr {m' : Module} (h : m'.imports = m.imports) : k.binding m' = k.binding m := by
  cases k <;> simp only [binding, origin, h]

theorem binding_path : (k.binding m).imported.path = k.base := by cases k <;> exact Alias.path_ofName _

end NewName

/-! ## Imports of new names -/

/-- Of what is added, a path begins at most with its source. -/
theorem IsAdded.eq_binding {m : Module} {b : Binding} {k : NewName}
    (h : IsAdded (m.imports.missing m.needs).package (m.imports.missing m.needs).objects b) (hscope : b.scope = [])
    (hc : b.concerns k.path = true) : b = k.binding m := by
  rcases h with ⟨-, rfl⟩ | ⟨name, hname, ho, hi⟩
  · cases k with
    | packageField => rfl
    | _ => exact absurd hc (by decide +kernel)
  · obtain ⟨scope, origin, imported⟩ := b
    cases hscope
    cases ho
    cases hi
    rcases object_mem_needs (mem_missing_objects.1 hname).1 with rfl | rfl | ⟨rfl, hattr⟩
    · cases k with
      | define => rfl
      | _ => exact absurd hc (by decide +kernel)
    · cases k with
      | field => rfl
      | _ => exact absurd hc (by decide +kernel)
    · cases k with
      | factory =>
        simp only [NewName.binding, NewName.origin, if_neg hattr]
        rfl
      | define | field | packageField => exact absurd hc (by decide +kernel)

open Text (Within) in
/-- A call of a new name is found in the text of the module. -/
theorem NewName.holds (k : NewName) {m : Module} {s : Scope} {args : List Arg}
    (h : (s, .call k.func "(" args ")") ∈ m.gather placing) : Text.holds m.print (k.path ++ "(") = true := by
  have hfunc : ∀ l, Span.write l k.func.print = k.path := by
    intro l
    cases k <;> rfl
  have hchars : (k.path ++ "(").toList.all (fun c => c ≠ '\n' ∧ c ≠ '\r') = true := by
    cases k <;> decide +kernel
  refine Module.holds_of_placed h (fun l => ?_) ?_ fun c hc => of_decide_eq_true (List.all_eq_true.1 hchars c hc)
  · rw [Expr.print, Span.write_append, Span.write_append, Span.write_append, hfunc]
    exact ((Within.refl _).left _).left _
  · cases k <;> decide +kernel

/-! ## Runs -/

namespace Stages
variable {r : Resolver} {m visited added out : Module} {u : Usage} (h : Stages r m visited added out u)
include h

theorem visited_steps : visited.steps ⊆ m.steps := by
  refine Edited.gather (P := fun _ _ => True) piecewise_subset
    ⟨?_, fun _ _ _ _ => List.Subset.refl _, fun _ _ _ _ => List.Subset.refl _, fun _ _ => List.Subset.refl _⟩ h.edited []
    fun _ _ => trivial
  rintro s i i' - (rfl | hi)
  · exact List.Subset.refl _
  · show i'.stmt.steps s ⊆ i.stmt.steps s
    rw [hi.steps s]
    exact List.subset_append_left _ _

variable {front rest rest' : List Stmt} {k : NewName}

omit h in
/-- What is added is added at the top. -/
theorem scope_of_added (ho : m.Opens front rest) (hd : Divided visited added front rest') {b : Binding} (hb : b ∈ added.bindings)
    (hnew : IsAdded (visited.imports.missing visited.needs).package (visited.imports.missing visited.needs).objects b) :
    b.scope = [] := by
  rw [hd.bindings] at hb
  rcases List.mem_append.1 hb with hb | hb
  · exact prelude_scope (visited.addedFront_prelude ho.isPrelude) hb
  · -- what is imported after the top was there before
    refine absurd ?_ hnew.not_mem
    rw [Module.bindings_append hd.visited_eq]
    exact List.mem_append_right _ hb

theorem added_sole (ho : m.Opens front rest) (hd : Divided visited added front rest') (hk : k.Free m rest) :
    Sole k.path (k.binding m) added.steps := by
  refine (hk.sole.mono h.visited_steps).grow (addImports_steps h.added_ok) (fun b hb hnew hc => ?_) fun b hb => ?_
  · rw [← k.binding_congr h.edited.imports]
    exact hnew.eq_binding (scope_of_added ho hd hb hnew) hc
  · exact hk.package b (h.visited_bindings ▸ hb)

theorem out_sole (ho : m.Opens front rest) (hd : Divided visited added front rest') (hk : k.Free m rest) :
    Sole k.path (k.binding m) out.steps := by
  rw [h.out_steps]
  exact (h.added_sole ho hd hk).drop u

omit h in
/-- If the name is imported, then by its own import. -/
theorem eq_binding_of_imported (hk : k.Free m rest) {b : Binding} (hb : b ∈ m.bindings) (has : b.imported.asName = none)
    (hpath : b.imported.path = k.base) : b = k.binding m :=
  hk.sole.eq_of_bound hb (Alias.path_mem_bound has) (hpath ▸ k.base_mem)

omit h in
theorem binding_kept (ho : m.Opens front rest) (hk : k.Free m rest) (hb : k.binding m ∈ m.bindings) :
    k.binding m ∈ stmtBindings (visited.addedFront front) := by
  rw [Module.bindings_append ho.body] at hb
  exact visited.addedFront_kept ((List.mem_append.1 hb).resolve_right hk.early)

/-- A name that is needed of the package is imported at the top. -/
theorem object_added (ho : m.Opens front rest) (hk : k.Free m rest)
    (hbinding : k.binding m = ⟨[], some packageName, .ofName k.path⟩) (hbase : k.base = k.path) (hstar : k.path ≠ "*")
    (hneed : .object k.path ∈ visited.needs) : k.binding m ∈ stmtBindings (visited.addedFront front) := by
  by_cases hthere : k.path ∈ m.imports.names packageName
  · obtain ⟨b, hb, -, has, hpath⟩ := Module.exists_of_name hstar (Gathered.brings_of_names hthere)
    exact binding_kept ho hk (eq_binding_of_imported hk hb has (hpath.trans hbase.symm) ▸ hb)
  · rw [hbinding]
    refine visited.addedFront_object ho.isPrelude (mem_missing_objects.2 ⟨hneed, not_or.2 ⟨?_, ?_⟩⟩)
    · exact h.edited.imports ▸ hthere
    · exact h.edited.imports ▸ ho.star

omit h in
/-- `field` is not imported from anywhere else. -/
theorem fieldSource_of_free (hk : NewName.field.Free m rest) : m.fieldSource = none ∨ m.fieldSource = some packageName := by
  cases hsource : m.fieldSource with
  | none => exact .inl rfl
  | some source =>
    obtain ⟨b, hb, ho, has, hpath⟩ := Module.exists_of_name (by decide) (Gathered.brings_of_sourceOf hsource)
    rw [eq_binding_of_imported hk hb has hpath] at ho
    exact .inr ho.symm

/-- Where a new name is called, its import stands at the top. -/
theorem binding_added (ho : m.Opens front rest) (hk : k.Free m rest) {s : Scope} {e : Expr}
    (he : (s, e) ∈ visited.gather placing) (hhead : k.Heads e) : k.binding m ∈ stmtBindings (visited.addedFront front) := by
  have hholds : k ≠ .define → Text.holds visited.print (k.path ++ "(") = true := by
    intro hdefine
    rcases hhead with ⟨args, rfl⟩ | ⟨hk, -⟩
    · exact k.holds he
    · exact absurd hk hdefine
  cases k with
  | define =>
    refine h.object_added ho hk rfl rfl (by decide) ?_
    simp [Module.needs, NewName.path]
  | field =>
    refine h.object_added ho hk rfl rfl (by decide) ?_
    have hfield := fieldSource_of_free hk
    rw [← h.edited.fieldSource] at hfield
    have hholds : Text.holds visited.print "field(" = true := hholds (by decide)
    simp [Module.needs, NewName.path, hholds, hfield]
  | factory =>
    by_cases hattr : "Factory" ∈ m.imports.names "attr"
    · obtain ⟨b, hb, -, has, hpath⟩ := Module.exists_of_name (by decide) (Gathered.brings_of_names hattr)
      exact binding_kept ho hk (eq_binding_of_imported hk hb has hpath ▸ hb)
    · refine h.object_added ho hk ?_ rfl (by decide) ?_
      · simp only [NewName.binding, NewName.origin, if_neg hattr]
      · have hholds : Text.holds visited.print "Factory(" = true := hholds (by decide)
        simp [Module.needs, NewName.path, hholds, h.edited.imports, hattr]
  | packageField =>
    by_cases hthere : packageName ∈ m.imports.modules
    · obtain ⟨b, hb, -, has, hpath⟩ := Module.exists_of_module hthere
      exact binding_kept ho hk (eq_binding_of_imported hk hb has hpath ▸ hb)
    · have hholds : Text.holds visited.print "attrs.field(" = true := hholds (by decide)
      refine visited.addedFront_package ?_
      simp [Gathered.missing, Module.needs, hholds, h.edited.imports, hthere]

/-- The import of a new name that is called is in use and stays. -/
theorem binding_stays (ho : m.Opens front rest) (hd : Divided visited added front rest') (hk : k.Free m rest) {s : Scope}
    {e : Expr} (he : (s, e) ∈ out.gather placing) (hhead : k.Heads e) : k.binding m ∈ out.bindings := by
  have hq : added.Quiet m.Makes := fun z hz => m.quiet_makes z (h.added_noises hz)
  have hsole := h.added_sole ho hd hk
  have hvisited := h.out_gather placing_blind placing_importless ▸ he
  have hfront := h.binding_added ho hk hvisited hhead
  have hb : k.binding m ∈ added.bindings := by
    rw [hd.bindings]
    exact List.mem_append_left _ hfront
  -- the name is bound at the top level only, so every scope finds the import
  have htop : ∀ a ∈ added.table.assignments, a.name = k.base → a.scope = [] := by
    intro a ha hname
    exact (Sole.assigned hq hk.quiet hsole k.binding_scope k.binding_bound ha (hname ▸ k.base_mem)).2.1
  have hinUse : added.table.importInUse [] k.base = true := by
    refine hd.inUse ho.isPrelude hq hfront (k.binding_bound ▸ List.mem_singleton_self _) (hk.quiet _ k.base_mem).1 htop
      (h.added_gather placing_blind placing_importless ▸ hvisited) (k.headPaths_eq hhead) fun x _ hpaths => ?_
    exact Sole.accessed_eq hq hk.quiet hsole k.binding_scope k.binding_bound k.base_mem hb hpaths
  rw [h.out_bindings, List.mem_filter]
  refine ⟨hb, ?_⟩
  have htable : u.table = added.table := Module.table_of_scan h.uses.table
  simp [Usage.dropsBinding, Usage.drops, Usage.inUse, k.binding_scope, k.binding_path, htable, hinUse]

/-- A new name means what it is to mean, wherever it is called. -/
theorem namesOf_new (ho : m.Opens front rest) (hk : k.Free m rest) {s : Scope} {e : Expr}
    (he : (s, e) ∈ out.gather placing) (hhead : k.Heads e) (q : String) : q ∈ out.table.namesOf s e ↔ q = k.meaning m := by
  obtain ⟨rest', -, hd⟩ := h.added_split ho
  rw [Table.namesOf, k.fullName_eq hhead]
  show q ∈ out.table.qualifiedNames s k.path ↔ _
  rw [Sole.mem_qualifiedNames (h.out_quiet m.quiet_makes) hk.quiet (h.out_sole ho hd hk) k.binding_scope k.binding_bound
    k.base_mem (h.binding_stays ho hd hk he hhead), k.binding_qualify]
  exact ⟨fun h => (Option.some.inj h).symm, fun h => h ▸ rfl⟩

end Stages

/-! ## What the pass writes -/

/-- The first target of an assignment and the arguments of the call that is assigned. -/
def Small.operands (x : Small) : List Expr :=
  x.target?.toList ++ (x.assigned?.bind Expr.call?).elim [] fun c => c.args.map fun a => a.value

theorem fieldFunc_new (source : FieldSource) : ∃ k : NewName, fieldFunc source = k.func := by
  unfold fieldFunc
  split
  · exact ⟨.field, rfl⟩
  · exact ⟨.packageField, rfl⟩

theorem FieldArgs.value?_new {f : FieldArgs} {force : Bool} {source : FieldSource} {e : Expr}
    (h : f.value? force source = .ok (some e)) : (∃ k : NewName, k.Heads e) ∨ f.simpleDefault = some e := by
  rcases FieldArgs.value?_cases h with ⟨-, he⟩ | ⟨-, ⟨-, he⟩ | ⟨-, he⟩⟩
  · obtain ⟨k, hk⟩ := fieldFunc_new source
    rw [hk] at he
    exact .inl ⟨k, .inl ⟨_, Option.some.inj he⟩⟩
  · exact .inr he.symm
  · obtain ⟨w, -, rfl⟩ := Option.map_eq_some_iff.1 he.symm
    exact .inl ⟨.factory, .inl ⟨_, rfl⟩⟩

theorem FieldArgs.build_new {f : FieldArgs} {target : Expr} {hint : Option Hint} {force : Bool} {source : FieldSource} {x : Small}
    (h : f.build target hint force source = .ok x) :
    ∀ e ∈ x.assigned?, (∃ k : NewName, k.Heads e) ∨ e = target ∨ f.simpleDefault = some e := by
  have hvalue : ∀ {e}, f.value? force source = .ok (some e) →
      (∃ k : NewName, k.Heads e) ∨ e = target ∨ f.simpleDefault = some e := fun hv => (FieldArgs.value?_new hv).imp_right .inr
  intro e he
  obtain ⟨v, hv, rfl⟩ := FieldArgs.build_eq_ok.1 h
  cases hint with
  | some a =>
    cases v with
    | none => cases he
    | some e' =>
      cases he
      exact hvalue hv
  | none =>
    cases he
    cases v with
    | none => exact .inr (.inl rfl)
    | some e' => exact hvalue hv

theorem simpleDefault_mem {args : List Arg} {e : Expr} (h : (FieldArgs.parse args).simpleDefault = some e) :
    e ∈ args.map fun a => a.value := by
  obtain ⟨a, ha, hs⟩ := List.mem_filterMap.1 (List.mem_filter.1 (List.mem_of_getLast? h)).1
  split at hs
  · cases hs
    exact List.mem_map_of_mem ha
  · cases hs

theorem Small.operands_eq {x : Small} {target value : Expr} {c : Call} (htarget : x.target? = some target)
    (hvalue : x.assigned? = some value) (hcall : value.call? = some c) :
    x.operands = target :: c.args.map fun a => a.value := by
  simp [Small.operands, htarget, hvalue, hcall]

/-- What an assignment is replaced with assigns a call of a new name, or something of the old assignment. -/
theorem upgradeSmall?_new {r : Resolver} {st : State} {x y : Small} (h : upgradeSmall? r st x = .ok (some y)) :
    ∀ e ∈ y.assigned?, (∃ k : NewName, k.Heads e) ∨ e ∈ x.operands := by
  intro e he
  obtain ⟨target, value, c, htarget, hvalue, hc, -, hbuild⟩ := upgradeSmall?_built h
  rw [Small.operands_eq htarget hvalue (fieldCall?_eq_some hc).1]
  refine (FieldArgs.build_new hbuild e he).imp_right fun hold => ?_
  rcases hold with rfl | hd
  · exact List.mem_cons_self
  · exact List.mem_cons_of_mem _ (simpleDefault_mem hd)

theorem Decorator.Replaced.new_name {r : Resolver} {d d' : Decorator} (h : d.Replaced r d') : NewName.define.Heads d'.expr := by
  have hnew := h.new
  unfold Decorator.upgrade at hnew
  split at hnew <;> cases hnew
  next e he =>
  unfold defineExpr at he
  simp only at he
  split at he
  · cases he
    exact .inr ⟨rfl, rfl⟩
  · unfold Expr.callOf at he
    split at he <;> cases he
    exact .inl ⟨_, rfl⟩

/-- What the pass may put somewhere: a call of a new name, or something of an assignment in the same scope. -/
def Module.MayWrite (m : Module) (y : Scope × Expr) : Prop :=
  (∃ k : NewName, k.Heads y.2) ∨ ∃ x, (y.1, x) ∈ m.gather placedSmalls ∧ y.2 ∈ x.operands

/-- What decorates something or is assigned in the output did so before, or the pass wrote it. -/
theorem Stages.out_new {r : Resolver} {m visited added out : Module} {u : Usage} (h : Stages r m visited added out u) {s : Scope}
    {e : Expr} (he : (s, e) ∈ out.gather placing) :
    (s, e) ∈ m.gather placing ∨ m.MayWrite (s, e) := by
  have hR : Piecewise fun xs ys : List (Scope × Expr) => ∀ y ∈ ys, y ∈ xs ∨ m.MayWrite y := by
    refine ⟨fun _ hy => (nomatch hy), fun h h' y hy => ?_⟩
    rcases List.mem_append.1 hy with hy | hy
    · exact (h y hy).imp_left (List.mem_append_left _)
    · exact (h' y hy).imp_left (List.mem_append_right _)
  have hdecorators : ∀ {s : Scope} {ds ds' : List Decorator}, List.Forall₂ (DecoratorEdit r) ds ds' →
      ∀ y ∈ ds'.map fun d => (s, d.expr), y ∈ (ds.map fun d => (s, d.expr)) ∨ m.MayWrite y := by
    intro s ds ds' hd
    induction hd with
    | nil => exact fun _ hy => nomatch hy
    | cons hd _ ih =>
      intro y hy
      rcases List.mem_cons.1 hy with rfl | hy
      · rcases hd with rfl | hd
        · exact .inl List.mem_cons_self
        · exact .inr (.inl ⟨.define, hd.new_name⟩)
      · exact (ih y hy).imp_left (List.mem_cons_of_mem _)
  have hall : ∀ y ∈ visited.gather placing, y ∈ m.gather placing ∨ m.MayWrite y := by
    refine Edited.gather (P := fun s x => (s, x) ∈ m.gather placedSmalls) hR ⟨?_, ?_, ?_, ?_⟩ h.edited [] fun _ hy => hy
    · rintro s i i' hmem (rfl | hi) y hy
      · exact .inl hy
      · obtain ⟨e, he, rfl⟩ := List.mem_map.1 hy
        obtain ⟨st, hst⟩ := hi.new
        rcases upgradeSmall?_new hst e (Option.mem_toList.1 he) with hk | hx
        · exact .inr (.inl hk)
        · exact .inr (.inr ⟨_, hmem, hx⟩)
    · exact fun s h ds hd => hdecorators hd
    · exact fun s h ds hd => hdecorators hd
    · exact fun _ _ _ hy => nomatch hy
  exact hall (s, e) (h.out_gather placing_blind placing_importless ▸ he)

/-! ## Names that are not bound -/

def Bind.assigned? {α : Type} : Bind α → Option String
  | .assign _ name _ => some name
  | .declare _ _ _ => none

/-- The names that a module assigns to, in whatever scope. -/
def Module.assignedNames (m : Module) : List String := (m.steps.flatMap Step.binds).filterMap Bind.assigned?

/-- A new name that the module does not assign to is free. -/
theorem NewName.free_of_unbound {k : NewName} {m : Module} {front rest : List Stmt} (ho : m.Opens front rest)
    (hquiet : ∀ name ∈ pathBeginnings k.path, ¬m.Makes (.loud name) ∧ ¬m.Makes (.inner name))
    (hunbound : ∀ name ∈ pathBeginnings k.path, name ∉ m.assignedNames)
    (hpackage : ∀ b ∈ m.bindings, b.origin = some packageName → b.concerns k.path = false) : k.Free m rest := by
  have hnot : ∀ x ∈ m.steps, ∀ s name source, .assign s name source ∈ x.binds → name ∉ pathBeginnings k.path := by
    intro x hx s name source hbind hname
    exact hunbound name hname (List.mem_filterMap.2 ⟨_, List.mem_flatMap.2 ⟨x, hx, hbind⟩, rfl⟩)
  refine ⟨hquiet, fun x hx s name source hbind hname => ?_, fun b hb hb' hc => ?_, fun hb => ?_⟩
  · exact absurd hname (hnot x hx s name source hbind)
  · rw [hpackage b hb hb'] at hc
    cases hc
  · have hb : k.binding m ∈ m.bindings := by
      rw [Module.bindings_append ho.body]
      exact List.mem_append_right _ hb
    obtain ⟨bs, hx, -, hbind⟩ := exists_bind_of_binding hb (k.binding_bound ▸ List.mem_singleton_self _)
    exact hnot _ hx _ _ _ hbind k.base_mem

/-! ## Runs on modules that begin with imports -/

/-- What decorates something or is assigned in the output of a run did so before, is a call of a new name or was part of an
assignment. If the module begins with its imports, then in every scope a call of a new name means that of the package alone,
provided nothing else in the module is bound to the name. Names can be resolved in the output, if no text of the module can go
wrong. -/
theorem new_names_mean_package {text : String} {m out : Module} (hp : Module.parse? text = some m)
    (h : (Session.fresh.transform text).result = .ok out) :
    (¬m.Makes .fault → out.scan = .ok out.table) ∧
      (∀ s e, (s, e) ∈ out.gather placing → (s, e) ∈ m.gather placing ∨ m.MayWrite (s, e)) ∧
      ∀ front rest, m.Opens front rest → ∀ k : NewName, k.Free m rest → ∀ s e, (s, e) ∈ out.gather placing → k.Heads e →
        ∀ q, q ∈ out.table.namesOf s e ↔ q = k.meaning m := by
  obtain ⟨t, visited, added, u, hs, hstages⟩ := transform_stages hp h
  refine ⟨fun hfault => hstages.out_scan m.quiet_makes hfault hs, fun s e he => hstages.out_new he, ?_⟩
  intro front rest ho k hk s e he hhead
  exact hstages.namesOf_new ho hk he hhead

/-- A module that imports another `field`. -/
def otherFieldText : String :=
  "import attr\nfrom x import field\n@attr.s(frozen=True)\nclass A:\n a = attr.ib(type=int, init=False)\n" ++
    " b = attr.ib(type=list, default=attr.Factory(list))\nkey = lambda y: (n := y)\n"

theorem other_field_text_means_package : ∃ out m t', (Session.fresh.transform otherFieldText).result = .ok out ∧
    Module.parse? otherFieldText = some m ∧ out.scan = .ok t' ∧
    ∀ k ∈ [NewName.define, .packageField, .factory], ∃ s e, (s, e) ∈ out.gather placing ∧ k.Heads e ∧
      ∀ q, q ∈ t'.namesOf s e ↔ q = k.meaning m := by
  have heval : observe otherFieldText (fun m _ out => decide ((∀ z ∈ m.gather listening, z.effect?.isSome = true) ∧
      (m.gather listening).filterMap Noise.effect? = [.inner "y", .loud "n"] ∧
      ((∀ x ∈ m.body.take 2, x.isPrelude = true) ∧ (m.body.take 2).getLast?.any Stmt.hasImport = true ∧
        (∀ x ∈ m.body.drop 2, x.isString = false ∧ x.hasImport = false) ∧
        (∀ y ∈ gatherStmts placedSmalls [] (m.body.drop 2), y.2.fromPackage = false) ∧ "*" ∉ m.imports.names packageName) ∧
      ∀ k ∈ [NewName.define, .packageField, .factory], "n" ∉ pathBeginnings k.path ∧ "y" ∉ pathBeginnings k.path ∧
        (∀ name ∈ pathBeginnings k.path, name ∉ m.assignedNames) ∧
        (∀ b ∈ m.bindings, b.origin = some packageName → b.concerns k.path = false) ∧
        ∃ y ∈ out.gather placing, k.Heads y.2)) = some true := by
    decide +kernel
  obtain ⟨out, m, t, hr, hp, -, heval⟩ := exists_of_observe heval
  obtain ⟨htextless, heffects, ⟨hprelude, hlast, hplain, hpackage, hstar⟩, hnames⟩ := of_decide_eq_true heval
  have hmakes : ∀ {x}, m.Makes x → x ∈ [.inner "y", .loud "n"] := heffects ▸ Module.mem_of_makes htextless
  have ho : m.Opens (m.body.take 2) (m.body.drop 2) :=
    ⟨(List.take_append_drop 2 _).symm, hprelude, hlast, hplain, hpackage, hstar⟩
  obtain ⟨hs', -, hmeans⟩ := new_names_mean_package hp hr
  refine ⟨out, m, out.table, hr, hp, hs' fun hx => by simpa using hmakes hx, fun k hk => ?_⟩
  obtain ⟨hn, hy, hunbound, hfrom, ⟨s, e⟩, hplaced, hhead⟩ := hnames k hk
  have hquiet : ∀ name ∈ pathBeginnings k.path, ¬m.Makes (.loud name) ∧ ¬m.Makes (.inner name) := by
    refine fun name hname => ⟨fun hx => ?_, fun hx => ?_⟩
    · obtain rfl : name = "n" := by simpa using hmakes hx
      exact hn hname
    · obtain rfl : name = "y" := by simpa using hmakes hx
      exact hy hname
  have hfree := NewName.free_of_unbound ho hquiet hunbound hfrom
  exact ⟨s, e, hplaced, hhead, hmeans _ _ ho k hfree s e hplaced hhead⟩

/-- A module with a function `field` of its own. -/
def ownFieldText : String := "import attr\ndef field(**k): pass\n@attr.s\nclass A:\n a = attr.ib(type=int, init=False)\n"

/-- The new call of `field` may mean this function as well as that of the package. -/
theorem own_field_text_means_both : ∃ out t' s e, (Session.fresh.transform ownFieldText).result = .ok out ∧ out.scan = .ok t' ∧
    out.print = "from attrs import define, field\n\ndef field(**k): pass\n@define\nclass A:\n a: int = field(init = False)\n" ∧
    (s, e) ∈ out.gather placing ∧ NewName.field.Heads e ∧ t'.namesOf s e = ["field", "attrs.field"] := by
  have heval : observe ownFieldText (fun _ _ out => decide (
      out.print = "from attrs import define, field\n\ndef field(**k): pass\n@define\nclass A:\n a: int = field(init = False)\n" ∧
      out.table.error = none ∧
      ∃ y ∈ out.gather placing, NewName.field.Heads y.2 ∧ out.table.namesOf y.1 y.2 = ["field", "attrs.field"])) = some true := by
    decide +kernel
  obtain ⟨out, -, -, hr, -, -, heval⟩ := exists_of_observe heval
  obtain ⟨hprint, herror, ⟨s, e⟩, hy, hhead, hnames⟩ := of_decide_eq_true heval
  exact ⟨out, out.table, s, e, hr, Module.scan_of_error herror, hprint, hy, hhead, hnames⟩

end AttrsUpgrade
