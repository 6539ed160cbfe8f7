import AttrsUpgrade.Proofs.Openings
import AttrsUpgrade.Proofs.Thinned
/-!
# What a run does to imports

A run first imports what the visited module asks for and lacks (`addImports_inserts`), and then takes out what may go and whose
name is not in use (`Stages.removed_iff`). All that can come in may also go, so no name comes in for good that is not in use,
whatever the text of the module seems to ask for. Imports that are neither asked for nor may go are the same before and after
(`import_delta`).

That a name is in use does not tell that the import is used, for another import of the same name may be meant
(`namesake_keeps_unused_import`). Where the imports that go are those that nothing uses (`Module.LosesUnused`), as they are if
each alone binds its name (`ImportDelta.losesUnused`), what comes in for good is used as long as they stand, and also without
them if they stood at the top level (`ImportDelta.used`), but not in general (`late_import_leaves_unused`).
-/

namespace AttrsUpgrade

/-! ## Imports that come and go -/

/-- Where an import comes from and what it names. -/
def Binding.pair (b : Binding) : Option String × String := (b.origin, b.imported.path)

/-- The imports that may come in. -/
def newPairs : List (Option String × String) :=
  [(some "attrs", "define"), (some "attrs", "Factory"), (some "attrs", "field"), (none, "attrs")]

/-- The imports that may go. -/
def oldPairs : List (Option String × String) :=
  [(none, "attr"), (none, "attrs"), (some "attr", "attrs"), (some "attr", "attrib"), (some "attr", "ib"),
    (some "attr", "Factory"), (some "attrs", "define"), (some "attrs", "Factory"), (some "attrs", "field")]

/-- An import under its own name that is one of the pairs. -/
def Binding.isAmong (pairs : List (Option String × String)) (b : Binding) : Bool :=
  b.imported.asName.isNone && pairs.contains b.pair

theorem removableFrom_iff (b : Binding) : b.imported.path ∈ removableFrom b.origin ↔ b.pair ∈ oldPairs := by
  obtain ⟨s, origin, a⟩ := b
  simp only [Binding.pair, oldPairs]
  cases origin with
  | none => simp [removableFrom, removablePackages]
  | some source =>
    simp only [removableFrom, removableNames]
    by_cases hattr : source = "attr"
    · simp [hattr]
    · by_cases hattrs : source = "attrs"
      · simp [hattrs]
      · simp [hattr, hattrs]

theorem Usage.dropsBinding_iff (u : Usage) (b : Binding) :
    u.dropsBinding b = true ↔ b.isAmong oldPairs = true ∧ u.inUse b.scope b.imported.path = false := by
  rw [Usage.dropsBinding, Usage.drops, Binding.isAmong]
  simp only [Bool.and_eq_true, Bool.not_eq_true', List.contains_iff_mem, removableFrom_iff]

/-- An import that may go binds what it names. -/
theorem Binding.plain_of_isAmong {b : Binding} (h : b.isAmong oldPairs = true) :
    b.imported.bound = [b.imported.path] ∧ b.imported.imported = ⟨[b.imported.path], none⟩ := by
  simp only [Binding.isAmong, Bool.and_eq_true, Option.isNone_iff_eq_none, List.contains_iff_mem] at h
  have hdots : ∀ pair ∈ oldPairs, '.' ∉ pair.2.toList := by decide
  have hdot := hdots _ h.2
  exact ⟨Alias.bound_of_plain h.1 hdot, Alias.imported_of_plain h.1 hdot⟩

/-- What may come in may go. -/
theorem Binding.isAmong_old {b : Binding} (h : b.isAmong newPairs = true) : b.isAmong oldPairs = true := by
  have hsub : newPairs ⊆ oldPairs := by decide
  simp only [Binding.isAmong, Bool.and_eq_true, List.contains_iff_mem] at h ⊢
  exact ⟨h.1, hsub h.2⟩

/-! ## Imports that are added -/

/-- The import that is asked for. -/
def Need.pair : Need → Option String × String
  | .package => (none, packageName)
  | .object name => (some packageName, name)

/-- What is added answers something that was asked for and not there. -/
theorem IsAdded.asked {g : Gathered} {needs : List Need} {b : Binding}
    (h : IsAdded (g.missing needs).package (g.missing needs).objects b) :
    b.imported.asName = none ∧ ∃ n ∈ needs, ¬n.IsMet g ∧ b.pair = n.pair := by
  rcases h with ⟨hpackage, rfl⟩ | ⟨name, hname, ho, hi⟩
  · obtain ⟨hneed, hmet⟩ := missing_package_iff.1 hpackage
    refine ⟨rfl, _, hneed, hmet, ?_⟩
    rw [Binding.pair, Alias.path_ofName]
    rfl
  · obtain ⟨hneed, hmet⟩ := mem_missing_objects.1 hname
    refine ⟨by rw [hi]; rfl, _, hneed, hmet, ?_⟩
    rw [Binding.pair, ho, hi, Alias.path_ofName]
    rfl

/-- All that a module can ask for is new. -/
theorem Module.needs_new {m : Module} {n : Need} (h : n ∈ m.needs) : n.pair ∈ newPairs := by
  cases n with
  | package => decide
  | object name =>
    rcases object_mem_needs h with rfl | rfl | ⟨rfl, -⟩ <;> decide

theorem Binding.isAmong_new {m : Module} {b : Binding} {n : Need} (has : b.imported.asName = none) (hn : n ∈ m.needs)
    (hpair : b.pair = n.pair) : b.isAmong newPairs = true := by
  rw [Binding.isAmong, has, hpair]
  simpa using Module.needs_new hn

/-- What is missing is imported, be it by an import that is there or by a new line. -/
theorem addImports_inserts {m m' : Module} {needs : List Need} (h : m.addImports needs = .ok m') {n : Need} (hn : n ∈ needs)
    (hmet : ¬n.IsMet m.imports) : ∃ b ∈ m'.bindings, b.imported.asName = none ∧ b.pair = n.pair := by
  obtain ⟨k, -, body, back, rfl, rfl, hback⟩ := addImports_body h
  have hb : stmtBindings back = stmtBindings (receiveStmts (receiveStmts (m.newNames needs) (m.body.take k)).2
      (m.body.drop k)).1 := by
    rcases hback with rfl | rfl
    · rfl
    · rw [stmtBindings, setApart_gather stepping_blind]
      rfl
  have hbindings : ∀ {b : Binding} {body : List Stmt}, b ∈ stmtBindings body → b ∈ Module.bindings { m with body } := id
  cases n with
  | package =>
    refine ⟨⟨[], none, .ofName packageName⟩, hbindings ?_, rfl, by rw [Binding.pair, Alias.path_ofName]; rfl⟩
    rw [stmtBindings_append, stmtBindings_append]
    refine List.mem_append_left _ (List.mem_append_right _ ?_)
    rw [stmtBindings, newImports_steps, if_pos (missing_package_iff.2 ⟨hn, hmet⟩)]
    exact List.mem_cons_self
  | object name =>
    have hnew : Alias.ofName name ∈ m.newNames needs := List.mem_map_of_mem (mem_missing_objects.2 ⟨hn, hmet⟩)
    suffices hfound : ∃ s, ⟨s, some packageName, .ofName name⟩ ∈ stmtBindings
        ((receiveStmts (m.newNames needs) (m.body.take k)).1 ++
          newImports (m.imports.missing needs).package (receiveStmts (m.newNames needs) m.body).2 ++ back) by
      obtain ⟨s, hs⟩ := hfound
      exact ⟨_, hbindings hs, rfl, by rw [Binding.pair, Alias.path_ofName]; rfl⟩
    rw [stmtBindings_append, stmtBindings_append, (receiveStmts_split k m.body _).2.2, hb]
    -- the name is taken by a statement before the new lines, by one after them, or by a new line
    rcases Node.receive_or_rest (.stmts (m.body.take k)) _ [] hnew with hrest | ⟨s, hs⟩
    · rcases Node.receive_or_rest (.stmts (m.body.drop k)) _ [] hrest with hrest | ⟨s, hs⟩
      · refine ⟨[], List.mem_append_left _ (List.mem_append_right _ ?_)⟩
        rw [stmtBindings, newImports_steps, List.flatMap_append, importStep_bindings]
        exact List.mem_append_right _ (mem_bindAll.2 ⟨_, hrest, rfl⟩)
      · exact ⟨s, List.mem_append_right _ hs⟩
    · exact ⟨s, List.mem_append_left _ (List.mem_append_left _ hs)⟩

theorem Small.receive_filled {x : Small} (hx : x.Filled) (names : List Alias) : (x.receive names).1.Filled := by
  cases x with
  | importFrom f =>
    cases himp : f.imported with
    | star =>
      simp only [Small.receive, himp]
      exact hx
    | names parens as =>
      simp only [Small.receive, himp]
      split
      · have has : as ≠ [] := by
          rw [Small.Filled, himp] at hx
          exact hx
        exact fun hnil => has (List.append_eq_nil_iff.1 hnil).2
      · exact hx
  | _ => exact hx

theorem newImports_filled (package : Bool) (names : List Alias) : stmtsFilled (newImports package names) := by
  have hline : ∀ {x : Small}, x.Filled → (Stmt.ofImport x).Filled := by
    refine fun {x} hx => ⟨List.cons_ne_nil _ _, fun i hi => ?_⟩
    rw [List.mem_singleton.1 hi]
    exact hx
  have hwhole : (Stmt.ofImport (.importNames "import " [.ofName packageName])).Filled := hline (List.cons_ne_nil _ _)
  cases names with
  | nil =>
    cases package with
    | false => trivial
    | true => exact ⟨hwhole, trivial⟩
  | cons a names =>
    have hobjects : (Stmt.ofImport
        (.importFrom ⟨"from ", "", some ⟨packageName, []⟩, " import ", .names none (a :: names)⟩)).Filled :=
      hline (List.cons_ne_nil _ _)
    cases package with
    | false => exact ⟨hobjects, trivial⟩
    | true => exact ⟨hwhole, hobjects, trivial⟩

/-! ## Imports that stay -/

/-- The imports with a star. -/
def starring : Gather (Scope × FromImport) where
  small
    | s, .importFrom f => match f.imported with | .star => [(s, f)] | .names _ _ => []
    | _, _ => []
  func _ _ := []
  cls _ _ := []
  head _ _ := []

theorem StepsGrow.filter_eq {new : Binding → Prop} {xs ys : List Step} (h : StepsGrow new xs ys) {p : Binding → Bool}
    (hnew : ∀ b, new b → p b = false) : (ys.flatMap Step.bindings).filter p = (xs.flatMap Step.bindings).filter p := by
  have hnone : ∀ {bs : List Binding}, (∀ b ∈ bs, new b) → bs.filter p = [] := by
    intro bs hbs
    refine List.filter_eq_nil_iff.2 fun b hb => ?_
    simp [hnew b (hbs b hb)]
  induction h with
  | nil => rfl
  | same x _ ih => simp only [List.flatMap_cons, List.filter_append, ih]
  | more _ hbs _ ih => simp only [List.flatMap_cons, Step.bindings, List.filter_append, hnone hbs, List.nil_append, ih]
  | insert hbs _ ih => simp only [List.flatMap_cons, Step.bindings, List.filter_append, hnone hbs, List.nil_append, ih]

/-! ## Runs -/

/-- The imports that go are those that may go and that nothing uses. -/
def Module.LosesUnused (added out : Module) : Prop :=
  ∀ b ∈ added.bindings, b ∉ out.bindings ↔ b.isAmong oldPairs = true ∧ ¬added.UsesImport b

instance (added out : Module) : Decidable (added.LosesUnused out) := inferInstanceAs (Decidable (∀ b ∈ added.bindings, _))

/-- How the imports of a module change from before a run, over the visited module and the one with all imports, to after it. -/
structure ImportDelta (m visited added out : Module) : Prop where
  /-- Nothing is lost when imports are added. -/
  kept : m.bindings.Sublist added.bindings
  inserted : ∀ n ∈ visited.needs, ¬n.IsMet m.imports → ∃ b ∈ added.bindings, b.imported.asName = none ∧ b.pair = n.pair
  asked : ∀ b ∈ added.bindings, b ∉ m.bindings → ∃ n ∈ visited.needs, ¬n.IsMet m.imports ∧ b.pair = n.pair
  /-- Nothing comes in when imports are removed. -/
  left : out.bindings.Sublist added.bindings
  removed : ∀ b ∈ added.bindings,
    b ∉ out.bindings ↔ b.isAmong oldPairs = true ∧ added.usage.inUse b.scope b.imported.path = false
  /-- Where an import alone binds its name, it stays if and only if it is used. -/
  alone : ∀ b ∈ added.bindings, b.isAmong oldPairs = true → added.Alone b → (b ∈ out.bindings ↔ added.UsesImport b)
  gone : ∀ b ∈ m.bindings, b ∉ out.bindings → b.isAmong oldPairs = true ∧ (added.LosesUnused out → ¬added.UsesImport b)
  come : ∀ b ∈ out.bindings, b ∉ m.bindings → b.isAmong newPairs = true ∧
    added.usage.inUse b.scope b.imported.path = true ∧ (added.LosesUnused out → added.UsesImport b)
  /-- What is used before imports go still is, if they go at the top level. -/
  used : added.LosesAtTop → ∀ b ∈ out.bindings, b.isAmong oldPairs = true → ¬m.Makes (.loud b.imported.path) →
    added.UsesImport b → out.UsesImport b
  others : (out.bindings.filter fun b => !b.isAmong oldPairs) = m.bindings.filter fun b => !b.isAmong oldPairs
  stars : out.gather starring = m.gather starring

theorem ImportDelta.losesUnused {m visited added out : Module} (h : ImportDelta m visited added out)
    (halone : ∀ b ∈ added.bindings, b.isAmong oldPairs = true → added.Alone b) : added.LosesUnused out := by
  intro b hb
  constructor
  · intro hout
    have hold := ((h.removed b hb).1 hout).1
    exact ⟨hold, fun huse => hout ((h.alone b hb hold (halone b hb hold)).2 huse)⟩
  · rintro ⟨hold, hunused⟩ hout
    exact hunused ((h.alone b hb hold (halone b hb hold)).1 hout)

namespace Stages
variable {r : Resolver} {m visited added out : Module} {u : Usage} (h : Stages r m visited added out u)
include h

theorem bindings_kept : m.bindings.Sublist added.bindings := h.visited_bindings ▸ (addImports_steps h.added_ok).kept

theorem added_isNew {b : Binding} (hb : b ∈ added.bindings) (hm : b ∉ m.bindings) :
    b.isAmong newPairs = true ∧ ∃ n ∈ visited.needs, ¬n.IsMet m.imports ∧ b.pair = n.pair := by
  rw [← h.visited_bindings] at hm
  obtain ⟨has, n, hn, hmet, hpair⟩ := (((addImports_steps h.added_ok).added b hb).resolve_left hm).asked
  rw [h.edited.imports] at hmet
  exact ⟨Binding.isAmong_new has hn hpair, n, hn, hmet, hpair⟩

theorem removed_iff {b : Binding} (hb : b ∈ added.bindings) :
    b ∉ out.bindings ↔ b.isAmong oldPairs = true ∧ added.usage.inUse b.scope b.imported.path = false := by
  rw [← Usage.dropsBinding_iff, ← h.uses.usage_eq, h.out_bindings, List.mem_filter]
  simp [hb]

theorem alone_iff {b : Binding} (hb : b ∈ added.bindings) (hold : b.isAmong oldPairs = true) (halone : added.Alone b) :
    b ∈ out.bindings ↔ added.UsesImport b := by
  rw [halone.usesImport_iff hb (Binding.plain_of_isAmong hold).1]
  constructor
  · intro hout
    by_contra hunused
    exact (h.removed_iff hb).2 ⟨hold, Bool.eq_false_iff.2 hunused⟩ hout
  · intro hused
    by_contra hout
    rw [((h.removed_iff hb).1 hout).2] at hused
    cases hused

theorem out_added {b : Binding} (hb : b ∈ out.bindings) : b ∈ added.bindings := (List.mem_filter.1 (h.out_bindings ▸ hb)).1

theorem come_used {b : Binding} (hb : b ∈ out.bindings) (hm : b ∉ m.bindings) : b.isAmong newPairs = true ∧
    added.usage.inUse b.scope b.imported.path = true ∧ (added.LosesUnused out → added.UsesImport b) := by
  have hadded := h.out_added hb
  have hnew := (h.added_isNew hadded hm).1
  -- it could have gone, so that it is in the output because it is used
  refine ⟨hnew, by_contra fun hunused => ?_, fun hloses => by_contra fun hunused => ?_⟩
  · exact (h.removed_iff hadded).2 ⟨Binding.isAmong_old hnew, Bool.eq_false_iff.2 hunused⟩ hb
  · exact (hloses b hadded).2 ⟨Binding.isAmong_old hnew, hunused⟩ hb

/-- No import is left empty by the visit or by the names that it is given. -/
theorem added_filled (hm : stmtsFilled m.body) : ∀ y ∈ added.gather placedSmalls, y.2.Filled := by
  have hR : Piecewise fun xs ys : List (Scope × Small) => (∀ y ∈ xs, y.2.Filled) → ∀ y ∈ ys, y.2.Filled := by
    refine ⟨id, fun hx hy hall => ?_⟩
    rw [List.forall_mem_append] at hall ⊢
    exact ⟨hx hall.1, hy hall.2⟩
  have hassign : ∀ {x : Small}, x.isAssignment = true → x.Filled := by
    intro x hx
    cases x with
    | assign | annAssign => trivial
    | _ => cases hx
  have hvisited : ∀ y ∈ visited.gather placedSmalls, y.2.Filled := by
    refine Edited.gather (P := fun _ _ => True) hR ⟨?_, fun _ _ _ _ => id, fun _ _ _ _ => id, fun _ _ => id⟩ h.edited []
      (fun _ _ => trivial) (Node.gather_filled (.stmts m.body) hm [])
    rintro s i i' - (rfl | hi)
    · exact id
    · intro _ y hy
      rw [List.mem_singleton.1 hy]
      exact hassign hi.assigns
  refine addImports_gather hR ⟨fun _ _ _ => rfl, fun _ _ _ => rfl⟩ (.of_refl (fun _ => id) _) ?_ ?_ h.added_ok hvisited
  · intro names _ s x hx y hy
    rw [List.mem_singleton.1 hy]
    exact Small.receive_filled (hx (s, x) (List.mem_singleton_self _)) names
  · exact fun names _ _ => Node.gather_filled (.stmts (newImports _ names)) (newImports_filled _ names) []

theorem used_out (hm : stmtsFilled m.body) (hloses : added.LosesAtTop) {b : Binding} (hold : b.isAmong oldPairs = true)
    (hquiet : ¬m.Makes (.loud b.imported.path)) (huse : added.UsesImport b) : out.UsesImport b := by
  obtain ⟨hbound, himported⟩ := Binding.plain_of_isAmong hold
  have hout : out = added.lightened := by
    rw [h.out_eq, h.uses.usage_eq]
    rfl
  have hloud : ¬added.Makes (.loud b.imported.path) := by
    rintro ⟨z, hz, hmakes⟩
    exact hquiet ⟨z, h.added_noises hz, hmakes⟩
  rw [hout]
  exact Module.usesImport_lightened (h.added_filled hm) hloses hbound himported hloud huse

theorem others_eq : (out.bindings.filter fun b => !b.isAmong oldPairs) = m.bindings.filter fun b => !b.isAmong oldPairs := by
  -- what may not go is dropped by no usage
  have hkept : (fun b => (!b.isAmong oldPairs && !u.dropsBinding b)) = fun b => !b.isAmong oldPairs := by
    funext b
    by_cases hold : b.isAmong oldPairs = true
    · simp [hold]
    · have hdrops : u.dropsBinding b = false := by
        rw [Bool.eq_false_iff]
        exact fun hd => hold ((u.dropsBinding_iff b).1 hd).1
      simp [hdrops]
  -- and all that is added may go
  have hgrow : (added.bindings.filter fun b => !b.isAmong oldPairs) = visited.bindings.filter fun b => !b.isAmong oldPairs := by
    refine (addImports_steps h.added_ok).filter_eq fun b hnew => ?_
    obtain ⟨has, n, hn, -, hpair⟩ := hnew.asked
    simp [Binding.isAmong_old (Binding.isAmong_new has hn hpair)]
  rw [h.out_bindings, List.filter_filter, hkept, hgrow, h.visited_bindings]

theorem stars_eq : out.gather starring = m.gather starring := by
  have hassign : ∀ (s : Scope) {x : Small}, x.isAssignment = true → starring.small s x = [] := by
    intro s x hx
    cases x with
    | assign | annAssign => rfl
    | _ => cases hx
  have hvisited : visited.gather starring = m.gather starring := by
    refine (Edited.gather (P := fun _ _ => True) piecewise_eq ⟨?_, fun _ _ _ _ => rfl, fun _ _ _ _ => rfl, fun _ _ => rfl⟩
      h.edited [] fun _ _ => trivial).symm
    rintro s i i' - (rfl | hi)
    · rfl
    · rw [hassign s hi.isAssignment, hassign s hi.assigns]
  have hadded : visited.gather starring = added.gather starring := by
    refine addImports_gather piecewise_eq ⟨fun _ _ _ => rfl, fun _ _ _ => rfl⟩ (.of_refl (fun _ => rfl) _) ?_ ?_ h.added_ok
    · intro names _ s x
      cases x with
      | importFrom f =>
        cases himp : f.imported with
        | star => simp only [Small.receive, himp]
        | names parens as =>
          simp only [Small.receive, himp]
          split <;> simp [starring, himp]
      | _ => rfl
    · intro names _
      unfold newImports
      cases (visited.imports.missing visited.needs).package <;> cases names.isEmpty <;> rfl
  have hout : added.gather starring = out.gather starring := by
    rw [h.out_eq]
    refine Node.removeImports_gather piecewise_eq (.of_refl (fun _ => rfl) _) (fun s x => ?_) (.stmts added.body) []
    cases x with
    | importNames o as =>
      simp only [Small.dropAliases]
      split <;> rfl
    | importFrom f =>
      cases himp : f.imported with
      | star => simp [Small.dropAliases, himp]
      | names parens as =>
        simp only [Small.dropAliases, himp]
        cases f.absolute? with
        | none => rfl
        | some source =>
          simp only
          split <;> simp [starring, himp]
    | _ => rfl
  rw [← hout, ← hadded, hvisited]

theorem importDelta (hm : stmtsFilled m.body) : ImportDelta m visited added out where
  kept := h.bindings_kept
  inserted _ hn hmet := addImports_inserts h.added_ok hn (h.edited.imports ▸ hmet)
  asked _ hb hnew := (h.added_isNew hb hnew).2
  left := h.out_bindings ▸ List.filter_sublist
  removed _ hb := h.removed_iff hb
  alone _ hb hold halone := h.alone_iff hb hold halone
  gone b hb hout :=
    have hadded := h.bindings_kept.subset hb
    ⟨((h.removed_iff hadded).1 hout).1, fun hloses => ((hloses b hadded).1 hout).2⟩
  come _ hb hnew := h.come_used hb hnew
  used hloses _ _ hold hquiet huse := h.used_out hm hloses hold hquiet huse
  others := h.others_eq
  stars := h.stars_eq

end Stages

/-- What a run that succeeds does to the imports of a module. -/
theorem import_delta {text : String} {m out : Module} (hp : Module.parse? text = some m)
    (h : (Session.fresh.transform text).result = .ok out) :
    ∃ visited added, (Session.fresh.transform text).visited = some visited ∧
      (Session.fresh.transform text).added = some added ∧ ImportDelta m visited added out := by
  obtain ⟨table, visited, added, u, -, hvisited, hadded, hstages⟩ := transform_run hp h
  exact ⟨visited, added, hvisited, hadded, hstages.importDelta (Module.filled_of_parse hp)⟩

/-- A comment that seems to ask for `field`. -/
def commentText : String := "import attr, os\nfrom attr import ib\n@attr.s\nclass A:\n a = ib(type=int) # field()\n"

/-- `field` comes in and goes again, `define` stays, and the old imports go. Each import alone binds its name, so that all that
goes is unused and what came in is used. -/
theorem comment_text_delta : ∃ m visited added out, Module.parse? commentText = some m ∧
    (Session.fresh.transform commentText).result = .ok out ∧ (Session.fresh.transform commentText).added = some added ∧
    ImportDelta m visited added out ∧ m.bindings.map Binding.pair = [(none, "attr"), (none, "os"), (some "attr", "ib")] ∧
    added.bindings.map Binding.pair =
      [(none, "attr"), (none, "os"), (some "attr", "ib"), (some "attrs", "define"), (some "attrs", "field")] ∧
    out.bindings.map Binding.pair = [(none, "os"), (some "attrs", "define")] ∧ added.LosesUnused out ∧
    ∀ b ∈ out.bindings, b ∉ m.bindings → out.UsesImport b := by
  have heval : observe commentText (fun m _ out => decide (
      m.bindings.map Binding.pair = [(none, "attr"), (none, "os"), (some "attr", "ib")] ∧ m.gather listening = [] ∧
      out.bindings.map Binding.pair = [(none, "os"), (some "attrs", "define")] ∧
      ∃ added ∈ (Session.fresh.transform commentText).added, added.bindings.map Binding.pair =
          [(none, "attr"), (none, "os"), (some "attr", "ib"), (some "attrs", "define"), (some "attrs", "field")] ∧
        added.gather listening = [] ∧ added.LosesAtTop ∧ ∀ b ∈ added.bindings,
          (∀ b' ∈ added.bindings, b'.scope = b.scope → b.imported.path ∈ b'.imported.bound → b' = b) ∧
          ∀ x ∈ added.binds, x.declares b.imported.path = false)) = some true := by
    decide +kernel
  obtain ⟨out, m, -, hr, hp, -, heval⟩ := exists_of_observe heval
  obtain ⟨hm, hsilent, hout, added', hadded', hpairs, hsilent', hloses, honly⟩ := of_decide_eq_true heval
  obtain ⟨visited, added, -, hadded, hdelta⟩ := import_delta hp hr
  obtain rfl : added = added' := Option.some.inj (hadded.symm.trans hadded')
  have hquiet : ∀ {m : Module}, m.gather listening = [] → ∀ x, ¬m.Makes x := by
    rintro m hnone x ⟨z, hz, -⟩
    exact absurd (hnone ▸ hz) List.not_mem_nil
  have hunused : added.LosesUnused out :=
    hdelta.losesUnused fun b hb _ => ⟨(honly b hb).1, (honly b hb).2, hquiet hsilent' _⟩
  refine ⟨m, visited, added, out, hp, hr, hadded, hdelta, hm, hpairs, hout, hunused, fun b hb hnew => ?_⟩
  obtain ⟨hpair, -, hused⟩ := hdelta.come b hb hnew
  exact hdelta.used hloses b hb (Binding.isAmong_old hpair) (hquiet hsilent _) (hused hunused)

/-- A comment that seems to ask for `attrs.field`, and an import in a function after all uses of its name. -/
def lateImportText : String :=
  "def f():\n    attrs = 1\n    print(attrs)\n    from attr import attrs\n# attrs.field(\n"

/-- The imports that go are those that nothing uses, but one of them goes inside of the function. Only because of that one could
`attrs` mean the import that came in, which is left unused. -/
theorem late_import_leaves_unused : ∃ m added out b, Module.parse? lateImportText = some m ∧
    (Session.fresh.transform lateImportText).result = .ok out ∧
    (Session.fresh.transform lateImportText).added = some added ∧
    out.print = "import attrs\n\ndef f():\n    attrs = 1\n    print(attrs)\n# attrs.field(\n" ∧
    added.LosesUnused out ∧ b ∈ out.bindings ∧ b ∉ m.bindings ∧ b.pair = (none, "attrs") ∧
    added.UsesImport b ∧ ¬out.UsesImport b := by
  have heval : observe lateImportText (fun m _ out => decide (
      out.print = "import attrs\n\ndef f():\n    attrs = 1\n    print(attrs)\n# attrs.field(\n" ∧
      ∃ added ∈ (Session.fresh.transform lateImportText).added, added.LosesUnused out ∧
        ∃ b ∈ out.bindings, b ∉ m.bindings ∧ b.pair = (none, "attrs") ∧ added.UsesImport b ∧ ¬out.UsesImport b)) =
      some true := by
    decide +kernel
  obtain ⟨out, m, -, hr, hp, -, heval⟩ := exists_of_observe heval
  obtain ⟨hprint, added, hadded, hloses, b, hb, hnew, hpair, hused, hunused⟩ := of_decide_eq_true heval
  exact ⟨m, added, out, b, hp, hr, hadded, hprint, hloses, hb, hnew, hpair, hused, hunused⟩

/-- A comment that seems to ask for `Factory`, beside another `Factory`. -/
def namesakeText : String := "from other import Factory\nx = Factory\n# Factory(\nimport os\n"

/-- The use of the other `Factory` keeps the new one, which nothing uses: the imports that go are not all that are unused. -/
theorem namesake_keeps_unused_import : ∃ m added out b, Module.parse? namesakeText = some m ∧
    (Session.fresh.transform namesakeText).result = .ok out ∧ (Session.fresh.transform namesakeText).added = some added ∧
    out.print = "from other import Factory\nx = Factory\n# Factory(\nimport os\nfrom attrs import Factory\n" ∧
    b ∈ out.bindings ∧ b ∉ m.bindings ∧ b.pair = (some "attrs", "Factory") ∧
    ¬added.UsesImport b ∧ ¬out.UsesImport b ∧ ¬added.LosesUnused out := by
  have heval : observe namesakeText (fun m _ out => decide (
      out.print = "from other import Factory\nx = Factory\n# Factory(\nimport os\nfrom attrs import Factory\n" ∧
      ∃ added ∈ (Session.fresh.transform namesakeText).added, ∃ b ∈ out.bindings, b ∉ m.bindings ∧ b ∈ added.bindings ∧
        b.pair = (some "attrs", "Factory") ∧ b.isAmong oldPairs = true ∧ ¬added.UsesImport b ∧ ¬out.UsesImport b)) =
      some true := by
    decide +kernel
  obtain ⟨out, m, -, hr, hp, -, heval⟩ := exists_of_observe heval
  obtain ⟨hprint, added, hadded, b, hb, hnew, hb', hpair, hold, hunused, hunused'⟩ := of_decide_eq_true heval
  refine ⟨m, added, out, b, hp, hr, hadded, hprint, hb, hnew, hpair, hunused, hunused', fun hloses => ?_⟩
  exact (hloses b hb').2 ⟨hold, hunused⟩ hb

end AttrsUpgrade
