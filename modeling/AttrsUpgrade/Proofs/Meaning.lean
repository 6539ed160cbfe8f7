import AttrsUpgrade.Proofs.RunSteps
import Mathlib.Data.List.Find
/-!
# What references mean

The qualified names of a path hang only on the assignments to its beginnings, and of import statements only on the names that
the path begins with (`Step.sight`). A run therefore leaves the meaning of every path alone that begins with none of the names
it imports or ceases to import.
-/

namespace AttrsUpgrade

/-! ## Views -/

section
variable {α β : Type} (f : String → α → Option β)

/-- What is seen of something that happens to names, if only some names and of these only something counts. -/
def Bind.view : Bind α → Option (Bind β)
  | .assign s name source => (f name source).map (.assign s name)
  | .declare s reach name => some (.declare s reach name)

def Names.view (v : Names α) : Names β :=
  ⟨v.keys.filterMap fun k => (f k.name k.source).map (Key.mk k.name k.scope), v.redirects⟩

theorem Names.view_bind (v : Names α) (b : Bind α) :
    (v.bind b).view f = ((b.view f).map (v.view f).bind).getD (v.view f) := by
  cases b with
  | assign s name source =>
    simp only [Names.bind, Names.view, Bind.view, List.filterMap_cons]
    cases f name source <;> rfl
  | declare s reach name =>
    cases s with
    | nil => rfl
    | cons f fs => rfl

theorem Names.view_foldl (bs : List (Bind α)) (v : Names α) :
    (bs.foldl Names.bind v).view f = (bs.filterMap (Bind.view f)).foldl Names.bind (v.view f) := by
  induction bs generalizing v with
  | nil => rfl
  | cons b bs ih =>
    rw [List.foldl_cons, ih, Names.view_bind, List.filterMap_cons]
    cases b.view f <;> rfl

theorem spared_view (N : Effect → Prop) (bs : List (Bind α)) :
    (spared N bs).filterMap (Bind.view f) = spared N (bs.filterMap (Bind.view f)) := by
  rw [spared, spared, List.filterMap_filter, List.filter_filterMap]
  refine List.filterMap_congr fun b _ => ?_
  have hname : ∀ b' ∈ b.view f, b'.name = b.name := by
    intro b' hb'
    cases b with
    | assign s name source =>
      obtain ⟨x, -, rfl⟩ := Option.map_eq_some_iff.1 hb'
      rfl
    | declare s reach name =>
      cases hb'
      rfl
  cases hb : b.view f with
  | none => simp
  | some b' =>
    simp only [Option.filter, hname b' hb]
    split <;> simp_all

/-- Whether something goes wrong can be seen. -/
theorem fault_view (bs : List (Bind α)) (e : Option ResolveError) :
    (bs.filterMap (Bind.view f)).foldl Bind.fault e = bs.foldl Bind.fault e := by
  induction bs generalizing e with
  | nil => rfl
  | cons b bs ih =>
    cases b with
    | assign s name source =>
      rw [List.filterMap_cons, Bind.view]
      cases f name source <;> exact ih _
    | declare s reach name => cases s <;> cases reach <;> exact ih _

/-- What is seen of a step. -/
def Step.sight {β : Type} (f : String → Option ImportSource → Option β) (x : Step) : List (Bind β) :=
  x.binds.filterMap (Bind.view f)

end

/-! ## Paths -/

/-- The qualified names that an import statement gives to a path. -/
def ImportSource.meanings (path : String) (i : ImportSource) : List String := i.names.filterMap fun n => n.qualify? i.origin path

/-- What an assignment has to do with a path: something if it is to one of the path's beginnings. -/
def pathView (path name : String) (source : Option ImportSource) : Option (Option (List String)) :=
  if name ∈ pathBeginnings path then some (source.map (ImportSource.meanings path)) else none

theorem Assignment.qualify_eq (a : Assignment) (path : String) :
    a.qualify path = (a.source.map (ImportSource.meanings path)).getD [joinWith "." (a.scope.path ++ [path])] := by
  unfold Assignment.qualify
  cases a.source <;> rfl

/-- The qualified names that a path has by the assignments to a name in a scope, as far as the view shows it. -/
def Names.meaning (path name : String) (s : Scope) (v : Names (Option (List String))) : List (List String) :=
  (v.keys.filter fun k => k.name = name ∧ k.scope = s).map fun k => k.source.getD [joinWith "." (k.scope.path ++ [path])]

/-- Two tables that show the same of a path. -/
structure SameView (N : Effect → Prop) (path : String) (t t' : Table) : Prop where
  view : (t'.names N).view (pathView path) = (t.names N).view (pathView path)
  loud : ∀ name ∈ pathBeginnings path, ¬N (.loud name)
  inner : ∀ a ∈ t.assignments, a.scope.isNamed = true ∨ N (.inner a.name) ∨ N (.loud a.name)
  inner' : ∀ a ∈ t'.assignments, a.scope.isNamed = true ∨ N (.inner a.name) ∨ N (.loud a.name)

theorem own_meaning {N : Effect → Prop} (t : Table) {path name : String} (hname : name ∈ pathBeginnings path)
    (hloud : ¬N (.loud name)) {s : Scope} (hs : s.isNamed = true) :
    (t.own s name).map (fun a => a.qualify path) = ((t.names N).view (pathView path)).meaning path name s := by
  simp only [Table.own, Names.meaning, Names.view, Table.names, ← List.filterMap_eq_map', List.filterMap_filter,
    List.filterMap_filterMap]
  refine List.filterMap_congr fun a _ => ?_
  by_cases ha : a.name = name ∧ a.scope = s
  · obtain ⟨rfl, rfl⟩ := ha
    simp [hs, hname, hloud, pathView, Assignment.key, Assignment.qualify_eq]
  · by_cases hseen : a.scope.isNamed = true ∧ ¬N (.loud a.name)
    · simp only [hseen, ha, not_false_eq_true, and_self, decide_true, if_true, Option.bind_some, Assignment.key]
      cases pathView path a.name a.source <;> simp [ha]
    · simp [hseen, ha]

namespace SameView
variable {N : Effect → Prop} {path : String} {t t' : Table} (h : SameView N path t t')
include h

theorem own_eq {name : String} (hname : name ∈ pathBeginnings path) {s : Scope} (hs : s.isNamed = true ∨ ¬N (.inner name)) :
    (t'.own s name).map (fun a => a.qualify path) = (t.own s name).map fun a => a.qualify path := by
  by_cases hnamed : s.isNamed = true
  · have hloud := h.loud name hname
    rw [own_meaning t' hname hloud hnamed, own_meaning t hname hloud hnamed, h.view]
  · -- nobody assigns to the name in a scope without a name
    have hempty : ∀ t : Table, (∀ a ∈ t.assignments, a.scope.isNamed = true ∨ N (.inner a.name) ∨ N (.loud a.name)) →
        t.own s name = [] := by
      intro t hinner
      refine List.filter_eq_nil_iff.2 fun a ha hown => ?_
      obtain ⟨rfl, rfl⟩ := of_decide_eq_true hown
      rcases hinner a ha with hn | hn | hn
      · exact hnamed hn
      · exact hs.resolve_left hnamed hn
      · exact h.loud _ hname hn
    rw [hempty t h.inner, hempty t' h.inner']

theorem reach?_eq (s : Scope) {name : String} (hname : name ∈ pathBeginnings path) : t'.reach? s name = t.reach? s name := by
  have hview := congrArg Names.redirects h.view
  have hredirects : (t'.names N).redirects = (t.names N).redirects := hview
  rw [← reach?_names t (h.loud name hname), ← reach?_names t' (h.loud name hname), hredirects]

theorem lookupFrom_eq {name : String} (hname : name ∈ pathBeginnings path) (s : Scope) : ∀ nested : Bool,
    (s.isNamed = true ∨ ¬N (.inner name)) →
    (t'.lookupFrom name nested s).map (fun a => a.qualify path) = (t.lookupFrom name nested s).map fun a => a.qualify path := by
  induction s with
  | nil => exact fun _ _ => h.own_eq hname (.inl rfl)
  | cons f fs ih =>
    intro nested hs
    have hfs : Scope.isNamed fs = true ∨ ¬N (.inner name) := hs.imp_left fun hn => (Bool.and_eq_true_iff.1 hn).2
    have hown := h.own_eq hname hs
    have hempty : (t'.own (f :: fs) name).isEmpty = (t.own (f :: fs) name).isEmpty := by
      rw [← List.isEmpty_map, hown, List.isEmpty_map]
    rw [Table.lookupFrom, Table.lookupFrom, h.reach?_eq _ hname, hempty]
    split
    · exact ih true hfs
    · split
      · exact h.own_eq hname (.inl rfl)
      · exact ih true hfs
      · split
        · exact ih true hfs
        · exact hown

/-- A path means the same in both tables. -/
theorem qualifiedNames_eq {s : Scope} (hs : s.isNamed = true ∨ ∀ name ∈ pathBeginnings path, ¬N (.inner name)) :
    t'.qualifiedNames s path = t.qualifiedNames s path := by
  have hlookup : ∀ name ∈ pathBeginnings path,
      (t'.lookup s name).map (fun a => a.qualify path) = (t.lookup s name).map fun a => a.qualify path :=
    fun name hname => h.lookupFrom_eq hname s false (hs.imp_right fun hn => hn name hname)
  have hfind : ((pathBeginnings path).find? fun b => !(t'.lookup s b).isEmpty) =
      (pathBeginnings path).find? fun b => !(t.lookup s b).isEmpty := by
    refine List.find?_congr fun name hname => ?_
    rw [← List.isEmpty_map, hlookup name hname, List.isEmpty_map]
  rw [Table.qualifiedNames, Table.qualifiedNames, hfind]
  split
  · next name hname =>
    rw [List.flatMap_def, List.flatMap_def, hlookup name (List.mem_of_find?_eq_some hname)]
  · rfl

end SameView

theorem Module.named_or_inner {N : Effect → Prop} {m : Module} (hq : m.Quiet N) :
    ∀ a ∈ m.table.assignments, a.scope.isNamed = true ∨ N (.inner a.name) ∨ N (.loud a.name) := by
  intro a ha
  rcases (Module.table_goes hq).assigned a ha with ha | hloud | ⟨-, hinner⟩ | ⟨s, -, hs, -⟩
  · cases ha
  · exact .inr (.inr hloud)
  · exact .inr (.inl hinner)
  · exact .inl hs

/-! ## Import statements and paths -/

theorem pathBeginningsFrom_isPrefix (cs : List Char) : ∀ front, ∀ b ∈ pathBeginningsFrom front cs,
    b.toList <+: front.reverse ++ cs := by
  induction cs with
  | nil =>
    intro front b hb
    rw [List.mem_singleton.1 hb, String.toList_ofList]
    exact List.prefix_append _ _
  | cons c cs ih =>
    intro front b hb
    rw [pathBeginningsFrom] at hb
    have hstep : ∀ b ∈ pathBeginningsFrom (c :: front) cs, b.toList <+: front.reverse ++ c :: cs := by
      intro b hb
      simpa using ih (c :: front) b hb
    split at hb
    · rcases List.mem_cons.1 hb with rfl | hb
      · rw [String.toList_ofList]
        exact List.prefix_append _ _
      · exact hstep b hb
    · exact hstep b hb

theorem isPrefix_of_mem_pathBeginnings {path b : String} (h : b ∈ pathBeginnings path) :
    b.toList.isPrefixOf path.toList = true := by
  rw [List.isPrefixOf_iff_prefix]
  exact pathBeginningsFrom_isPrefix path.toList [] b (List.mem_reverse.1 h)

/-- Whether a path begins with a name that is imported, be it in the middle of a word. -/
def Binding.concerns (path : String) (b : Binding) : Bool :=
  b.imported.bound.any fun name => name.toList.isPrefixOf path.toList

theorem qualify?_eq_none {path : String} {b : Binding} (h : b.concerns path = false) (origin : String) :
    b.imported.imported.qualify? origin path = none := by
  unfold Binding.concerns Alias.bound at h
  rw [ImportedName.qualify?, Option.map_eq_none_iff, List.find?_eq_none]
  intro name hname
  unfold Alias.imported at hname ⊢
  cases hr : b.imported.renamed? with
  | none =>
    rw [hr] at h
    exact List.any_eq_false.1 h name hname
  | some n =>
    rw [hr] at h
    exact List.any_eq_false.1 h n List.mem_cons_self

theorem not_mem_beginnings {path name : String} {b : Binding} (h : b.concerns path = false) (hname : name ∈ b.imported.bound) :
    name ∉ pathBeginnings path :=
  fun hb => List.any_eq_false.1 h name hname (isPrefix_of_mem_pathBeginnings hb)

theorem meanings_concerning (path origin : String) (bs : List Binding) :
    ImportSource.meanings path ⟨origin, (bs.filter fun b => b.concerns path).map fun b => b.imported.imported⟩ =
      ImportSource.meanings path ⟨origin, bs.map fun b => b.imported.imported⟩ := by
  simp only [ImportSource.meanings, List.filterMap_map, List.filterMap_filter]
  refine List.filterMap_congr fun b _ => ?_
  cases h : b.concerns path with
  | true => rfl
  | false => exact (qualify?_eq_none h origin).symm

theorem flatMap_filter_of_nil {α β : Type} {p : α → Bool} {f : α → List β} {xs : List α} (h : ∀ x ∈ xs, p x = false → f x = []) :
    (xs.filter p).flatMap f = xs.flatMap f := by
  induction xs with
  | nil => rfl
  | cons x xs ih =>
    have hrest := ih fun y hy => h y (List.mem_cons_of_mem x hy)
    cases hx : p x with
    | true => rw [List.filter_cons_of_pos hx, List.flatMap_cons, List.flatMap_cons, hrest]
    | false =>
      rw [List.filter_cons_of_neg (Bool.not_eq_true _ ▸ hx), List.flatMap_cons, h x List.mem_cons_self hx, hrest]
      rfl

/-- Of an import statement a path sees only the names that it begins with. -/
theorem sight_concerning (path : String) (bs : List Binding) :
    (Step.imports (bs.filter fun b => b.concerns path)).sight (pathView path) = (Step.imports bs).sight (pathView path) := by
  simp only [Step.sight, Step.binds, List.filterMap_flatMap, List.filterMap_map, Function.comp_def, Bind.view, pathView,
    Option.map_some, meanings_concerning]
  refine flatMap_filter_of_nil fun b _ hb => List.filterMap_eq_nil_iff.2 fun name hname => ?_
  rw [if_neg (not_mem_beginnings hb hname), Option.map_none]

/-! ## Runs -/

section
variable {β : Type} {f : String → Option ImportSource → Option β} {c : Binding → Bool}

theorem sight_importStep (bs : List Binding) : (importStep bs).flatMap (Step.sight f) = (Step.imports bs).sight f := by
  cases bs with
  | nil => rfl
  | cons b bs => exact List.append_nil _

theorem sight_storeStep {names : List String} (h : ∀ name ∈ names, f name none = none) (s : Scope) :
    (storeStep s names).flatMap (Step.sight f) = [] := by
  rw [storeStep, List.flatMap_map, List.flatMap_eq_nil_iff]
  intro name hname
  simp [Step.sight, Step.binds, Bind.view, h name hname]

/-- Only bindings for which `c` holds are seen of import statements. -/
def SeesOnly (f : String → Option ImportSource → Option β) (c : Binding → Bool) : Prop :=
  ∀ bs, (Step.imports (bs.filter c)).sight f = (Step.imports bs).sight f

theorem SeesOnly.congr (hf : SeesOnly f c) {bs bs' : List Binding} (h : bs.filter c = bs'.filter c) :
    (Step.imports bs).sight f = (Step.imports bs').sight f := by
  rw [← hf bs, h, hf bs']

/-- Imports that come and go are not seen, if none is seen of those that come and all those that are seen stay. -/
theorem StepsGrow.sight {new : Binding → Prop} {xs ys : List Step} (h : StepsGrow new xs ys) (hf : SeesOnly f c) {u : Usage}
    (hgone : ∀ b ∈ ys.flatMap Step.bindings, new b → c b = true → u.dropsBinding b = true)
    (hkept : ∀ b ∈ xs.flatMap Step.bindings, c b = true → u.dropsBinding b = false) :
    (ys.flatMap (Step.drop u)).flatMap (Step.sight f) = xs.flatMap (Step.sight f) := by
  have hnew : ∀ bs : List Binding, (∀ b ∈ bs, c b = true → u.dropsBinding b = true) →
      (bs.filter fun b => !u.dropsBinding b).filter c = [] := by
    intro bs hbs
    rw [List.filter_filter, List.filter_eq_nil_iff]
    intro b hb hc
    simp [hbs b hb (Bool.and_eq_true_iff.1 hc).1] at hc
  have hold : ∀ bs : List Binding, (∀ b ∈ bs, c b = true → u.dropsBinding b = false) →
      (bs.filter fun b => !u.dropsBinding b).filter c = bs.filter c := by
    intro bs hbs
    rw [List.filter_filter]
    refine List.filter_congr fun b hb => ?_
    cases hc : c b with
    | false => rfl
    | true => simp [hbs b hb hc]
  induction h with
  | nil => rfl
  | @same x xs ys _ ih =>
    have hrest := ih (fun b hb => hgone b (List.mem_append_right _ hb)) fun b hb => hkept b (List.mem_append_right _ hb)
    simp only [List.flatMap_cons, List.flatMap_append, hrest]
    congr 1
    cases x with
    | bind b => exact List.append_nil _
    | imports bs =>
      rw [Step.drop, sight_importStep]
      exact hf.congr (hold bs fun b hb => hkept b (List.mem_append_left _ hb))
  | @more bs bs' xs ys _ hbs' _ ih =>
    have hrest := ih (fun b hb => hgone b (List.mem_append_right _ hb)) fun b hb => hkept b (List.mem_append_right _ hb)
    have hseen : ((bs' ++ bs).filter fun b => !u.dropsBinding b).filter c = bs.filter c := by
      rw [List.filter_append, List.filter_append, hold bs fun b hb => hkept b (List.mem_append_left _ hb),
        hnew bs' fun b hb => hgone b (List.mem_append_left _ (List.mem_append_left _ hb)) (hbs' b hb), List.nil_append]
    simp only [List.flatMap_cons, List.flatMap_append, hrest, Step.drop, sight_importStep, hf.congr hseen]
  | @insert bs xs ys hbs _ ih =>
    have hrest := ih (fun b hb => hgone b (List.mem_append_right _ hb)) hkept
    have hseen : (bs.filter fun b => !u.dropsBinding b).filter c = List.filter c [] :=
      hnew bs fun b hb => hgone b (List.mem_append_left _ hb) (hbs b hb)
    rw [List.flatMap_cons, List.flatMap_append, hrest, Step.drop, sight_importStep, hf.congr hseen]
    rfl

end

/-- An assignment of a field call. -/
def Small.assignsField (r : Resolver) (x : Small) : Bool := (x.assigned?.bind Expr.call?).any r.isField

/-- The names that assignments of field calls bind besides those of their first targets. -/
def Module.laterNames (r : Resolver) (m : Module) : List String :=
  m.smalls.flatMap fun x => if x.assignsField r then x.laterNames else []

theorem Item.Replaced.assignsField {r : Resolver} {i i' : Item} (h : i.Replaced r i') : i.stmt.assignsField r = true := by
  obtain ⟨value, hv, call, hc, hf⟩ := h.old
  rw [Small.assignsField, Option.mem_def.1 hv, Option.bind_some, Option.mem_def.1 hc]
  exact hf

namespace Stages
variable {r : Resolver} {m visited added out : Module} {u : Usage} (h : Stages r m visited added out u)
variable {β : Type} {f : String → Option ImportSource → Option β} {c : Binding → Bool}
include h

theorem visited_sight (hlater : ∀ name ∈ m.laterNames r, f name none = none) :
    visited.steps.flatMap (Step.sight f) = m.steps.flatMap (Step.sight f) := by
  have hR : Piecewise fun xs ys : List Step => ys.flatMap (Step.sight f) = xs.flatMap (Step.sight f) :=
    ⟨rfl, fun h h' => by rw [List.flatMap_append, List.flatMap_append, h, h']⟩
  refine Edited.gather (P := fun _ x => x.assignsField r = true → ∀ name ∈ x.laterNames, f name none = none) hR
    ⟨?_, fun _ _ _ _ => rfl, fun _ _ _ _ => rfl, fun _ _ => rfl⟩ h.edited [] ?_
  · rintro s i i' hok (rfl | hi)
    · rfl
    · show (i'.stmt.steps s).flatMap (Step.sight f) = (i.stmt.steps s).flatMap (Step.sight f)
      rw [hi.steps s, List.flatMap_append, sight_storeStep (hok hi.assignsField), List.append_nil]
  · intro y hy hassigns name hname
    have hsmall : y.2 ∈ m.smalls := m.smalls_eq ▸ List.mem_map_of_mem hy
    refine hlater name (List.mem_flatMap.2 ⟨y.2, hsmall, ?_⟩)
    rwa [if_pos hassigns]

theorem out_sight (hf : SeesOnly f c) (hlater : ∀ name ∈ m.laterNames r, f name none = none)
    (hsame : ∀ b, c b = true → (b ∈ m.bindings ↔ b ∈ out.bindings)) :
    out.steps.flatMap (Step.sight f) = m.steps.flatMap (Step.sight f) := by
  have hout : ∀ b, b ∈ out.bindings ↔ b ∈ added.bindings ∧ u.dropsBinding b = false := by
    intro b
    rw [h.out_bindings, List.mem_filter, Bool.not_eq_true']
  rw [← h.visited_sight hlater, h.out_steps]
  refine (addImports_steps h.added_ok).sight hf (fun b hb hnew hc => ?_) fun b hb hc => ?_
  · -- a new name that stays would be in the output only
    have hnot : b ∉ m.bindings := h.visited_bindings ▸ hnew.not_mem
    by_contra hdrop
    exact hnot ((hsame b hc).2 ((hout b).2 ⟨hb, Bool.not_eq_true _ ▸ hdrop⟩))
  · exact ((hout b).1 ((hsame b hc).1 (h.visited_bindings ▸ hb))).2

theorem out_quiet {N : Effect → Prop} (hq : m.Quiet N) : out.Quiet N := fun z hz => hq z (h.out_noises hz)

theorem table_view {N : Effect → Prop} (hq : m.Quiet N) (hf : SeesOnly f c) (hlater : ∀ name ∈ m.laterNames r, f name none = none)
    (hsame : ∀ b, c b = true → (b ∈ m.bindings ↔ b ∈ out.bindings)) :
    (out.table.names N).view f = (m.table.names N).view f := by
  rw [(Module.table_goes hq).names, (Module.table_goes (h.out_quiet hq)).names, Names.view_foldl, Names.view_foldl, spared_view,
    spared_view, Module.binds, Module.binds, List.filterMap_flatMap, List.filterMap_flatMap]
  exact congrArg (fun bs => (spared N bs).foldl Names.bind _) (h.out_sight hf hlater hsame)

/-- Names can be resolved in the output, if nothing but declarations can go wrong. -/
theorem out_scan {N : Effect → Prop} (hq : m.Quiet N) (hfault : ¬N .fault) {t : Table} (hs : m.scan = .ok t) :
    out.scan = .ok out.table := by
  have hunseen : ∀ bs, (Step.imports bs).sight (fun _ _ => (none : Option Unit)) = [] := by
    intro bs
    simp only [Step.sight, Step.binds, List.filterMap_flatMap, List.filterMap_map, List.flatMap_eq_nil_iff]
    exact fun b _ => List.filterMap_eq_nil_iff.2 fun _ _ => rfl
  have hsight : out.binds.filterMap (Bind.view fun _ _ => (none : Option Unit)) =
      m.binds.filterMap (Bind.view fun _ _ => (none : Option Unit)) := by
    rw [Module.binds, Module.binds, List.filterMap_flatMap, List.filterMap_flatMap]
    refine h.out_sight (c := fun _ => false) (fun bs => ?_) (fun _ _ => rfl) fun b hb => by cases hb
    rw [hunseen, hunseen]
  have herror : out.table.error = m.table.error := by
    rw [(Module.table_goes hq).error.resolve_left hfault, (Module.table_goes (h.out_quiet hq)).error.resolve_left hfault,
      ← fault_view (fun _ _ => (none : Option Unit)), hsight, fault_view]
    rfl
  exact Module.scan_of_error (herror.trans (Module.error_of_scan hs))

theorem sameView {N : Effect → Prop} (hq : m.Quiet N) {path : String} (hloud : ∀ name ∈ pathBeginnings path, ¬N (.loud name))
    (hlater : ∀ name ∈ m.laterNames r, name ∉ pathBeginnings path)
    (hsame : ∀ b : Binding, b.concerns path = true → (b ∈ m.bindings ↔ b ∈ out.bindings)) :
    SameView N path m.table out.table where
  view := h.table_view hq (sight_concerning path) (fun name hname => if_neg (hlater name hname)) hsame
  loud := hloud
  inner := Module.named_or_inner hq
  inner' := Module.named_or_inner (h.out_quiet hq)

end Stages

/-! ## Imports at the top level -/

theorem pathBeginningsFrom_getLast? (cs : List Char) : ∀ front,
    (pathBeginningsFrom front cs).getLast? = some (String.ofList (front.reverse ++ cs)) := by
  induction cs with
  | nil =>
    intro front
    rw [List.append_nil]
    rfl
  | cons c cs ih =>
    intro front
    have hrest := ih (c :: front)
    rw [List.reverse_cons, List.append_assoc, List.singleton_append] at hrest
    rw [pathBeginningsFrom]
    split
    · rw [List.getLast?_cons, hrest]
      rfl
    · exact hrest

/-- The longest beginning of a path is the path. -/
theorem pathBeginnings_head? (path : String) : (pathBeginnings path).head? = some path := by
  rw [pathBeginnings, List.head?_reverse, pathBeginningsFrom_getLast?]
  simp

theorem Table.qualifiedNames_of_found {t : Table} {s : Scope} {path : String} (h : t.lookup s path ≠ []) :
    t.qualifiedNames s path = (t.lookup s path).flatMap fun a => a.qualify path := by
  obtain ⟨rest, hrest⟩ : ∃ rest, pathBeginnings path = path :: rest := by
    have hhead := pathBeginnings_head? path
    cases hb : pathBeginnings path with
    | nil => simp [hb] at hhead
    | cons b bs =>
      rw [hb] at hhead
      exact ⟨bs, congrArg (· :: bs) (Option.some.inj hhead)⟩
  have hfound : (!(t.lookup s path).isEmpty) = true := by simpa using h
  rw [Table.qualifiedNames, hrest, List.find?_cons_of_pos (p := fun b => !(t.lookup s b).isEmpty) hfound]

theorem qualify?_self (name : String) :
    ImportedName.qualify? packageName ⟨[name], none⟩ name = some (packageName ++ "." ++ name) := by
  have hbase : packageName.isEmpty = false ∧ packageName.toList.getLast? ≠ some '.' := by decide
  have hrest : name.toList.drop name.length = [] := by rw [← String.length_toList, List.drop_length]
  simp [ImportedName.qualify?, hbase, hrest]

/-- A name of the package that is imported at the top level means that name there. -/
theorem Module.means_of_top {m : Module} {name : String} (hb : ⟨[], some packageName, .ofName name⟩ ∈ m.bindings) :
    packageName ++ "." ++ name ∈ m.table.qualifiedNames [] name := by
  have hbound : name ∈ (Alias.ofName name).bound := by rw [Alias.bound_ofName]; exact List.mem_singleton_self _
  obtain ⟨bs, hx, hbs, hbind⟩ := exists_bind_of_binding hb hbound
  obtain ⟨a, ha, hsource⟩ := (Module.table_goes m.quiet_makes).made name _ (List.mem_flatMap.2 ⟨_, hx, hbind⟩)
  have hfound : a ∈ m.table.lookup [] name := ha
  rw [Table.qualifiedNames_of_found (List.ne_nil_of_mem hfound)]
  refine List.mem_flatMap.2 ⟨a, hfound, ?_⟩
  rw [Assignment.qualify, hsource]
  refine List.mem_filterMap.2 ⟨_, List.mem_map_of_mem hbs, ?_⟩
  rw [Alias.imported_ofName]
  exact qualify?_self name

/-! ## References -/

/-- In every scope of the output of a run a path means what it meant, if it begins with no name that is imported in one of the
modules only, with no later target of an assignment of a field call, with no name that an expression or text of the module
assigns to and, in lambdas and comprehensions, with no name bound there. Names can be resolved in the output, if no text of the
module can go wrong. What is imported at the top level of the output means that there, whatever else it meant. -/
theorem meaning_kept_unless_imported {text : String} {m out : Module} (hp : Module.parse? text = some m)
    (h : (Session.fresh.transform text).result = .ok out) :
    ∃ t, m.scan = .ok t ∧ (¬m.Makes .fault → out.scan = .ok out.table) ∧
      (∀ s path, (∀ name ∈ pathBeginnings path, ¬m.Makes (.loud name)) →
        (s.isNamed = true ∨ ∀ name ∈ pathBeginnings path, ¬m.Makes (.inner name)) →
        (∀ name ∈ m.laterNames (t.resolver m), name ∉ pathBeginnings path) →
        (∀ b : Binding, b.concerns path = true → (b ∈ m.bindings ↔ b ∈ out.bindings)) →
        out.table.qualifiedNames s path = t.qualifiedNames s path) ∧
      ∀ name, ⟨[], some packageName, .ofName name⟩ ∈ out.bindings →
        packageName ++ "." ++ name ∈ out.table.qualifiedNames [] name := by
  obtain ⟨t, visited, added, u, hs, hstages⟩ := transform_stages hp h
  obtain rfl := Module.table_of_scan hs
  refine ⟨m.table, hs, fun hfault => hstages.out_scan m.quiet_makes hfault hs, fun s path hloud hinner hlater hsame => ?_,
    fun name hname => Module.means_of_top hname⟩
  exact (hstages.sameView m.quiet_makes hloud hlater hsame).qualifiedNames_eq hinner

/-- A function, a class that uses it, and an expression that assigns. -/
def helperText : String :=
  "import attr, os\ndef helper(x): return os.path.join(x)\n@attr.s\nclass A:\n a = attr.ib(type=int, default=helper(1))\n" ++
    "key = lambda y: helper(n := y)\n"

theorem helper_text_keeps_meaning : ∃ out m t t', (Session.fresh.transform helperText).result = .ok out ∧
    Module.parse? helperText = some m ∧ m.scan = .ok t ∧ out.scan = .ok t' ∧
    (∀ s, ∀ path ∈ ["os.path.join", "helper"], t'.qualifiedNames s path = t.qualifiedNames s path) ∧
    "attrs.define" ∈ t'.qualifiedNames [] "define" := by
  have heval : observe helperText (fun m r out => decide ((∀ z ∈ m.gather listening, z.effect?.isSome = true) ∧
      (m.gather listening).filterMap Noise.effect? = [.inner "y", .loud "n"] ∧
      (∀ path ∈ ["os.path.join", "helper"], "n" ∉ pathBeginnings path ∧ "y" ∉ pathBeginnings path ∧
        (∀ name ∈ m.laterNames r, name ∉ pathBeginnings path) ∧
        (∀ b ∈ m.bindings, b.concerns path = true → b ∈ out.bindings) ∧
        ∀ b ∈ out.bindings, b.concerns path = true → b ∈ m.bindings) ∧
      ⟨[], some packageName, .ofName "define"⟩ ∈ out.bindings)) = some true := by
    decide +kernel
  obtain ⟨out, m, t, hr, hp, hs, heval⟩ := exists_of_observe heval
  obtain ⟨htextless, heffects, hpaths, hdefine⟩ := of_decide_eq_true heval
  have hmakes : ∀ {x}, m.Makes x → x ∈ [.inner "y", .loud "n"] := heffects ▸ Module.mem_of_makes htextless
  obtain ⟨t₁, hs₁, hs', hkept, hmeans⟩ := meaning_kept_unless_imported hp hr
  cases hs.symm.trans hs₁
  have hfault : ¬m.Makes .fault := fun hx => by simpa using hmakes hx
  refine ⟨out, m, t, out.table, hr, hp, hs, hs' hfault, fun s path hpath => ?_, hmeans "define" hdefine⟩
  obtain ⟨hn, hy, hlater, hkeep, hnew⟩ := hpaths path hpath
  refine hkept s path (fun name hname hx => ?_) (.inr fun name hname hx => ?_) hlater
    fun b hb => ⟨fun hm => hkeep b hm hb, fun ho => hnew b ho hb⟩
  · obtain rfl : name = "n" := by simpa using hmakes hx
    exact hn hname
  · obtain rfl : name = "y" := by simpa using hmakes hx
    exact hy hname

/-- The functions that are called by statements of their own, and what they mean. -/
def Module.calledNames (m : Module) (t : Table) : List (Option Name × List String) :=
  m.smalls.filterMap fun x =>
    match x with
    | .expr e => e.call?.map fun c => (c.func.base?, t.qualifiedNamesOf c.func)
    | _ => none

/-- A function with the name of something in the package, in a module that has nothing to do with it. -/
def captureText : String := "def field(): pass\nfield()\n"

/-- Its call asks for an import, and the import gives the call a second meaning. -/
theorem capture_text_is_captured : ∃ out m t t' site, (Session.fresh.transform captureText).result = .ok out ∧
    Module.parse? captureText = some m ∧ m.scan = .ok t ∧ out.scan = .ok t' ∧
    out.print = "from attrs import field\n\ndef field(): pass\nfield()\n" ∧
    m.calledNames t = [(some ⟨"field", site⟩, ["field"])] ∧
    out.calledNames t' = [(some ⟨"field", site⟩, ["field", "attrs.field"])] := by
  have heval : observe captureText (fun m _ out => decide (
      out.print = "from attrs import field\n\ndef field(): pass\nfield()\n" ∧ out.table.error = none ∧
      m.calledNames m.table = [(some ⟨"field", 8⟩, ["field"])] ∧
      out.calledNames out.table = [(some ⟨"field", 8⟩, ["field", "attrs.field"])])) = some true := by
    decide +kernel
  obtain ⟨out, m, t, hr, hp, hs, heval⟩ := exists_of_observe heval
  obtain ⟨hprint, herror, hm, hout⟩ := of_decide_eq_true heval
  rw [← Module.table_of_scan hs] at hm
  exact ⟨out, m, t, out.table, 8, hr, hp, hs, Module.scan_of_error herror, hprint, hm, hout⟩

end AttrsUpgrade
