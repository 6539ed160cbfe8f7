import AttrsUpgrade.Proofs.RunSteps
/-!
# What a run asks for

A run reads the imports it needs off the text of the visited module. Whatever decorates something or is assigned stands in that
text (`Module.holds_of_placed`), and the visited module imports what the module imported (`Edited.imports`). What a module
is said to import it does import (`Module.exists_of_name`, `Module.exists_of_module`), and what is needed and not imported is
missing (`mem_missing_objects`).
-/

namespace AttrsUpgrade

/-! ## Text in text -/

/-- A text that stands in another. -/
def Text.Within (part text : String) : Prop := ∃ front back, text = front ++ part ++ back

namespace Text.Within
variable {part text : String}

theorem refl (text : String) : Within text text := ⟨"", "", by simp⟩

theorem left (h : Within part text) (more : String) : Within part (text ++ more) := by
  obtain ⟨front, back, rfl⟩ := h
  exact ⟨front, back ++ more, by simp [String.append_assoc]⟩

theorem right (h : Within part text) (more : String) : Within part (more ++ text) := by
  obtain ⟨front, back, rfl⟩ := h
  exact ⟨more ++ front, back, by simp [String.append_assoc]⟩

theorem trans {whole : String} (h : Within part text) (h' : Within text whole) : Within part whole := by
  obtain ⟨front, back, rfl⟩ := h'
  exact (h.right front).left back

theorem holds (h : Within part text) : Text.holds text part = true := by
  obtain ⟨front, back, rfl⟩ := h
  have hfront : ∀ cs : List Char, Text.occurs part.toList (cs ++ (part.toList ++ back.toList)) = true := by
    intro cs
    induction cs with
    | nil =>
      cases hpart : part.toList ++ back.toList with
      | nil => simp [Text.occurs, (List.append_eq_nil_iff.1 hpart).1]
      | cons c rest =>
        have hbegin : part.toList.isPrefixOf (c :: rest) = true := by
          rw [List.isPrefixOf_iff_prefix, ← hpart]
          exact List.prefix_append _ _
        simp [Text.occurs, hbegin]
    | cons c cs ih => simp [Text.occurs, ih]
  simpa [Text.holds, List.append_assoc] using hfront front.toList

/-- What has no newline in it is not lost with a newline at the end. -/
theorem dropFinalNewline (h : Within part text) (hne : part.toList ≠ []) (hchars : ∀ c ∈ part.toList, c ≠ '\n' ∧ c ≠ '\r') :
    Within part (dropFinalNewline text) := by
  have hcut : ∃ ending : String, text = AttrsUpgrade.dropFinalNewline text ++ ending ∧
      ∀ c ∈ ending.toList, c = '\n' ∨ c = '\r' := by
    have hback : ∀ {cs : List Char}, text.toList.reverse = cs → text = String.ofList cs.reverse := by
      rintro cs rfl
      simp
    unfold AttrsUpgrade.dropFinalNewline Text.cutNewline
    split
    · next cs hcs => exact ⟨"\r\n", by rw [hback hcs]; simp, by simp⟩
    · next cs _ hcs => exact ⟨"\n", by rw [hback hcs]; simp, by simp⟩
    · next cs hcs => exact ⟨"\r", by rw [hback hcs]; simp, by simp⟩
    · exact ⟨"", by simp, by simp⟩
  obtain ⟨ending, hending, hnewline⟩ := hcut
  generalize AttrsUpgrade.dropFinalNewline text = kept at hending ⊢
  obtain ⟨front, back, rfl⟩ := h
  have hlists : (front.toList ++ part.toList) ++ back.toList = kept.toList ++ ending.toList := by
    simpa [String.ext_iff] using hending
  rcases List.append_eq_append_iff.1 hlists with ⟨rest, hkept, -⟩ | ⟨rest, hpart, hback⟩
  · exact ⟨front, String.ofList rest, by simpa [String.ext_iff] using hkept⟩
  · -- the end of the part would be in the newline
    cases hrest : rest.getLast? with
    | none =>
      rw [List.getLast?_eq_none_iff.1 hrest, List.append_nil] at hpart
      exact ⟨front, "", by simpa [String.ext_iff] using hpart.symm⟩
    | some c =>
      exfalso
      have hc : c ∈ part.toList := by
        have hlast := congrArg List.getLast? hpart
        rw [List.getLast?_append, List.getLast?_append, hrest, Option.some_or] at hlast
        cases hp : part.toList.getLast? with
        | none => exact absurd (List.getLast?_eq_none_iff.1 hp) hne
        | some d =>
          rw [hp, Option.some_or] at hlast
          exact Option.some.inj hlast ▸ List.mem_of_getLast? hp
      have hnew := hnewline c (hback ▸ List.mem_append_left _ (List.mem_of_getLast? hrest))
      exact hnew.elim (hchars c hc).1 (hchars c hc).2

end Text.Within

open Text (Within)

/-! ## What decorates something or is assigned -/

/-- The decorators and the values of assignments. -/
def placing : Gather (Scope × Expr) where
  small s x := x.assigned?.toList.map (Prod.mk s)
  func s h := h.decorators.map fun d => (s, d.expr)
  cls s h := h.decorators.map fun d => (s, d.expr)
  head _ _ := []

theorem placing_blind : placing.Blind := ⟨fun _ _ _ => rfl, fun _ _ _ => rfl⟩

theorem placing_importless : placing.Importless := by
  intro s x hx
  cases x with
  | importNames | importFrom => rfl
  | _ => cases hx

theorem Small.assigned_within {x : Small} {e : Expr} (h : x.assigned? = some e) (l : Layout) :
    Within (Span.write l e.print) (Span.write l x.print) := by
  cases x with
  | assign targets value =>
    cases h
    rw [Small.print, Span.write_append]
    exact (Within.refl _).right _
  | annAssign target hint value =>
    cases value with
    | none => cases h
    | some a =>
      cases h
      have hprint : Span.write l (Small.print (.annAssign target hint (some a))) =
          Span.write l (target.print ++ hint.print ++ a.equals) ++ Span.write l a.value.print := by
        simp [Small.print, Assigned.print, String.append_assoc]
      rw [hprint]
      exact (Within.refl _).right _
  | _ => cases h

theorem items_within {is : List Item} {s : Scope} {y : Scope × Expr} (h : y ∈ gatherItems placing s is) (l : Layout) :
    Within (Span.write l y.2.print) (Span.write l (printItems is)) := by
  induction is with
  | nil => cases h
  | cons i is ih =>
    rw [printItems, Span.write_append]
    rw [gatherItems, List.flatMap_cons, List.mem_append] at h
    rcases h with h | h
    · obtain ⟨e, he, rfl⟩ := List.mem_map.1 h
      rw [Item.print, Span.write_append]
      exact ((Small.assigned_within (Option.mem_toList.1 he) l).left _).left _
    · exact (ih h).right _

theorem decorators_within {ds : List Decorator} {s : Scope} {y : Scope × Expr} (h : y ∈ ds.map fun d => (s, d.expr))
    (l : Layout) : Within (Span.write l y.2.print) (Span.write l (ds.flatMap Decorator.print)) := by
  induction ds with
  | nil => cases h
  | cons d ds ih =>
    rw [List.flatMap_cons, Span.write_append]
    rcases List.mem_cons.1 h with rfl | h
    · have hprint : Span.write l d.print =
          Span.write l (d.leading.flatten ++ .margin :: d.mark) ++ Span.write l d.expr.print ++ Span.write l d.trailing := by
        simp [Decorator.print, Span.write, String.append_assoc]
      rw [hprint]
      exact (((Within.refl _).right _).left _).left _
    · exact (ih h).right _

/-- What decorates something or is assigned stands in the text. -/
theorem Node.placed_within (n : Node) : ∀ s l, ∀ y ∈ n.gather placing s,
    ∃ l', Within (Span.write l' y.2.print) (n.write l) := by
  induction n using Node.induct with
  | line x =>
    intro s l y hy
    refine ⟨l, ?_⟩
    rw [Node.write, Stmt.write, Line.write_print]
    exact ((items_within hy l).right _).left _
  | inline o is t =>
    intro s l y hy
    refine ⟨l, ?_⟩
    have hitems : is.isEmpty = false := by
      cases is with
      | nil => cases hy
      | cons i is => rfl
    rw [Node.write, Suite.write, hitems, Span.write_append, Span.write_append]
    exact ((items_within hy l).right _).left _
  | compound cs ih => exact ih
  | block o i xs f ih =>
    intro s l y hy
    obtain ⟨l', hw⟩ := ih s (l.deeper i) y hy
    have hbody : xs.isEmpty = false := by
      cases xs with
      | nil => cases hy
      | cons x xs => rfl
    rw [Node.write, Suite.write, hbody]
    exact ⟨l', (hw.right _).left _⟩
  | funcDef h b ih =>
    intro s l y hy
    rw [Node.write, Stmt.write]
    rcases List.mem_append.1 hy with hy | hy
    · refine ⟨l, ?_⟩
      rw [FuncHead.write_print]
      exact (((decorators_within hy l).right _).left _).left _
    · obtain ⟨l', hw⟩ := ih (h.frame :: s) l y hy
      exact ⟨l', hw.right _⟩
  | classDef h b ih =>
    intro s l y hy
    rw [Node.write, Stmt.write]
    rcases List.mem_append.1 hy with hy | hy
    · refine ⟨l, ?_⟩
      rw [ClassHead.write_print]
      exact (((decorators_within hy l).right _).left _).left _
    · obtain ⟨l', hw⟩ := ih (h.frame :: s) l y hy
      exact ⟨l', hw.right _⟩
  | noClause | noStmt => exact fun _ _ _ hy => absurd hy List.not_mem_nil
  | clause head b cs ihb ihc =>
    intro s l y hy
    rw [Node.write, writeClauses, Clause.write]
    rcases List.mem_append.1 hy with hy | hy
    · obtain ⟨l', hw⟩ := ihb s l y hy
      exact ⟨l', (hw.right _).left _⟩
    · obtain ⟨l', hw⟩ := ihc s l y hy
      exact ⟨l', hw.right _⟩
  | next x xs ihx ihxs =>
    intro s l y hy
    rw [Node.write, writeStmts]
    rcases List.mem_append.1 hy with hy | hy
    · obtain ⟨l', hw⟩ := ihx s l y hy
      exact ⟨l', hw.left _⟩
    · obtain ⟨l', hw⟩ := ihxs s l y hy
      exact ⟨l', hw.right _⟩

/-- A call that decorates something or is assigned is found in the text of the module by how it begins. -/
theorem Module.holds_of_placed {m : Module} {s : Scope} {e : Expr} (h : (s, e) ∈ m.gather placing) {part : String}
    (hpart : ∀ l, Within part (Span.write l e.print)) (hne : part.toList ≠ [])
    (hchars : ∀ c ∈ part.toList, c ≠ '\n' ∧ c ≠ '\r') : Text.holds m.print part = true := by
  obtain ⟨l, hw⟩ := Node.placed_within (.stmts m.body) [] ⟨"", m.newline⟩ (s, e) h
  have hlines : Within part m.lines := (((hpart l).trans hw).right _).left _
  show Text.holds (m.ending m.lines) part = true
  unfold Module.ending
  split
  · split
    · next hempty =>
      obtain ⟨front, back, hlines⟩ := hlines
      have hnil : part.toList = [] := by
        have hwhole := congrArg String.toList ((String.isEmpty_iff.1 hempty).symm.trans hlines)
        simp only [String.toList_append, String.toList_empty] at hwhole
        exact (List.append_eq_nil_iff.1 (List.append_eq_nil_iff.1 hwhole.symm).1).2
      exact absurd hnil hne
    · exact hlines.holds
  · exact (hlines.dropFinalNewline hne hchars).holds

/-! ## Imports -/

theorem Gathered.add_of_assignment {x : Small} (h : x.isAssignment = true) (g : Gathered) : g.add x = g := by
  cases x with
  | assign | annAssign => rfl
  | _ => cases h

/-- The pass leaves alone what a module imports. -/
theorem Edited.imports {r : Resolver} {m visited : Module} (h : Edited r (.stmts m.body) (.stmts visited.body)) :
    visited.imports = m.imports := by
  have hR : Piecewise fun xs ys : List (Scope × Small) =>
      ∀ g, (ys.map Prod.snd).foldl Gathered.add g = (xs.map Prod.snd).foldl Gathered.add g := by
    refine ⟨fun _ => rfl, fun h h' g => ?_⟩
    rw [List.map_append, List.map_append, List.foldl_append, List.foldl_append, h, h']
  have hall : ∀ g, ((visited.gather placedSmalls).map Prod.snd).foldl Gathered.add g =
      ((m.gather placedSmalls).map Prod.snd).foldl Gathered.add g := by
    refine Edited.gather (P := fun _ _ => True) hR ⟨?_, fun _ _ _ _ _ => rfl, fun _ _ _ _ _ => rfl, fun _ _ _ => rfl⟩ h []
      fun _ _ => trivial
    rintro s i i' - (rfl | hi) g
    · rfl
    · show g.add i'.stmt = g.add i.stmt
      rw [Gathered.add_of_assignment hi.assigns, Gathered.add_of_assignment hi.isAssignment]
  rw [Module.imports, Module.imports, Module.smalls_eq, Module.smalls_eq]
  exact hall _

theorem Edited.fieldSource {r : Resolver} {m visited : Module} (h : Edited r (.stmts m.body) (.stmts visited.body)) :
    visited.fieldSource = m.fieldSource := by
  rw [Module.fieldSource, Module.fieldSource, h.imports]

namespace Gathered

/-- Whether a name comes from a module, not counting what a star brings. -/
def Brings (g : Gathered) (source name : String) : Prop := ∃ names, (source, names) ∈ g.objects ∧ name ∈ names

theorem brings_of_names {g : Gathered} {source name : String} (h : name ∈ g.names source) : g.Brings source name := by
  unfold Gathered.names at h
  cases hl : g.objects.lookup source with
  | none => simp [hl] at h
  | some names =>
    obtain ⟨front, back, hobjects, -⟩ := List.lookup_eq_some_iff.1 hl
    exact ⟨names, by simp [hobjects], by simpa [hl] using h⟩

theorem brings_of_sourceOf {g : Gathered} {source name : String} (h : g.sourceOf name = some source) : g.Brings source name := by
  obtain ⟨o, ho, rfl⟩ := Option.map_eq_some_iff.1 h
  exact ⟨o.2, List.mem_of_find?_eq_some ho, by simpa using List.find?_some ho⟩

theorem mem_put {source : String} {names : List String} {o : String × List String} {objects : List (String × List String)}
    (h : o ∈ put source names objects) : o ∈ objects ∨ o = (source, names) := by
  induction objects with
  | nil => exact .inr (List.mem_singleton.1 h)
  | cons o' objects ih =>
    obtain ⟨s, ns⟩ := o'
    rw [put] at h
    split at h
    · next hs =>
      subst hs
      exact (List.mem_cons.1 h).elim .inr fun h => .inl (List.mem_cons_of_mem _ h)
    · rcases List.mem_cons.1 h with rfl | h
      · exact .inl List.mem_cons_self
      · exact (ih h).imp_left (List.mem_cons_of_mem _)

variable {name : String} {x : Small} {g : Gathered}

/-- What an import statement brings from a module it binds itself. -/
theorem brings_add (hname : name ≠ "*") {source : String} (h : (g.add x).Brings source name) (s : Scope) :
    g.Brings source name ∨ ∃ b ∈ (x.steps s).flatMap Step.bindings,
      b.origin = some source ∧ b.imported.asName = none ∧ b.imported.path = name := by
  obtain ⟨names, hmem, hin⟩ := h
  have hstar : ∀ source', (source, names) ∈ put source' ["*"] g.objects → g.Brings source name := by
    intro source' hput
    rcases mem_put hput with hold | hnew
    · exact ⟨names, hold, hin⟩
    · rw [(Prod.mk.inj hnew).2] at hin
      exact absurd (List.mem_singleton.1 hin) hname
  cases x with
  | importFrom f =>
    rw [Small.steps, importStep_bindings]
    simp only [Gathered.add] at hmem
    split at hmem
    · exact .inl ⟨names, hmem, hin⟩
    · exact .inl (hstar _ hmem)
    · next source' parens as habs himp =>
      split at hmem
      · exact .inl ⟨names, hmem, hin⟩
      · split at hmem
        · exact .inl (hstar _ hmem)
        · rcases mem_put hmem with hold | hnew
          · exact .inl ⟨names, hold, hin⟩
          · obtain ⟨rfl, rfl⟩ := Prod.mk.inj hnew
            refine (List.mem_append.1 hin).imp brings_of_names fun hnew => ?_
            obtain ⟨a, ha, rfl⟩ := List.mem_map.1 hnew
            obtain ⟨ha, hbare⟩ := List.mem_filter.1 ha
            have halias : a ∈ f.imported.aliases := by rw [himp]; exact ha
            refine ⟨_, mem_bindAll.2 ⟨a, halias, rfl⟩, ?_, Option.isNone_iff_eq_none.1 hbare, rfl⟩
            rw [FromImport.origin_of_absolute habs]
  | _ => exact .inl ⟨names, hmem, hin⟩

theorem modules_add (h : name ∈ (g.add x).modules) (s : Scope) :
    name ∈ g.modules ∨ ∃ b ∈ (x.steps s).flatMap Step.bindings,
      b.origin = none ∧ b.imported.asName = none ∧ b.imported.path = name := by
  cases x with
  | importNames o as =>
    rw [Small.steps, importStep_bindings]
    refine (List.mem_append.1 h).imp_right fun hnew => ?_
    obtain ⟨a, ha, rfl⟩ := List.mem_map.1 hnew
    obtain ⟨ha, hbare⟩ := List.mem_filter.1 ha
    exact ⟨_, mem_bindAll.2 ⟨a, ha, rfl⟩, rfl, Option.isNone_iff_eq_none.1 hbare, rfl⟩
  | importFrom f =>
    simp only [Gathered.add] at h
    split at h
    · exact .inl h
    · exact .inl h
    · split at h
      · exact .inl h
      · split at h <;> exact .inl h
  | _ => exact .inl h

end Gathered

/-- What is gathered from a module comes from one of its bindings, if each statement only adds what it binds. -/
theorem Module.exists_of_gathered {P : Gathered → Prop} {Q : Binding → Prop} (hempty : ¬P .empty)
    (hstep : ∀ g x s, P (g.add x) → P g ∨ ∃ b ∈ (x.steps s).flatMap Step.bindings, Q b) {m : Module} (h : P m.imports) :
    ∃ b ∈ m.bindings, Q b := by
  have hall : ∀ (ys : List (Scope × Small)) g, P ((ys.map Prod.snd).foldl Gathered.add g) →
      P g ∨ ∃ b ∈ ys.flatMap fun y => (y.2.steps y.1).flatMap Step.bindings, Q b := by
    intro ys
    induction ys with
    | nil => exact fun _ h => .inl h
    | cons y ys ih =>
      intro g h
      rw [List.flatMap_cons]
      rcases ih (g.add y.2) h with h | ⟨b, hb, hq⟩
      · refine (hstep g y.2 y.1 h).imp_right ?_
        rintro ⟨b, hb, hq⟩
        exact ⟨b, List.mem_append_left _ hb, hq⟩
      · exact .inr ⟨b, List.mem_append_right _ hb, hq⟩
  rw [Module.imports, m.smalls_eq] at h
  rw [m.bindings_eq]
  exact (hall _ _ h).resolve_left hempty

theorem Module.exists_of_name {m : Module} {source name : String} (hname : name ≠ "*") (h : m.imports.Brings source name) :
    ∃ b ∈ m.bindings, b.origin = some source ∧ b.imported.asName = none ∧ b.imported.path = name :=
  Module.exists_of_gathered (P := fun g => g.Brings source name) (fun ⟨_, hmem, _⟩ => List.not_mem_nil hmem)
    (fun _ _ s h => Gathered.brings_add hname h s) h

theorem Module.exists_of_module {m : Module} {name : String} (h : name ∈ m.imports.modules) :
    ∃ b ∈ m.bindings, b.origin = none ∧ b.imported.asName = none ∧ b.imported.path = name :=
  Module.exists_of_gathered (P := fun g => name ∈ g.modules) List.not_mem_nil (fun _ _ s h => Gathered.modules_add h s) h

theorem Alias.path_mem_bound {a : Alias} (h : a.asName = none) : a.path ∈ a.bound := by
  have hbound : a.bound = a.name.beginnings := by simp [Alias.bound, Alias.renamed?, h]
  rw [hbound, DottedName.beginnings, List.mem_reverse, List.mem_map]
  refine ⟨a.name.tail.length, by simp [DottedName.names], ?_⟩
  rw [List.take_of_length_le (by simp [DottedName.names])]
  rfl

/-! ## What is needed and missing -/

theorem mem_insertSorted {s t : String} {xs : List String} : s ∈ Text.insertSorted t xs ↔ s = t ∨ s ∈ xs := by
  induction xs with
  | nil => simp [Text.insertSorted]
  | cons x xs ih =>
    rw [Text.insertSorted]
    split
    · next he => simp [he]
    · split
      · simp
      · simp only [List.mem_cons, ih]
        exact or_left_comm

theorem mem_sorted {s : String} {xs : List String} : s ∈ Text.sorted xs ↔ s ∈ xs := by
  induction xs with
  | nil => simp [Text.sorted]
  | cons x xs ih => rw [Text.sorted, mem_insertSorted, ih, List.mem_cons]

theorem object_mem_needs {m : Module} {name : String} (h : .object name ∈ m.needs) :
    name = "define" ∨ name = "field" ∨ name = "Factory" ∧ "Factory" ∉ m.imports.names "attr" := by
  simp only [Module.needs, List.mem_append] at h
  rcases h with ((h | h) | h) | h
  · split at h
    · next hfactory =>
      obtain ⟨-, hattr⟩ := Bool.and_eq_true_iff.1 hfactory
      cases List.mem_singleton.1 h
      exact .inr (.inr ⟨rfl, by simpa using hattr⟩)
    · cases h
  · cases List.mem_singleton.1 h
    exact .inl rfl
  · split at h
    · cases List.mem_singleton.1 h
      exact .inr (.inl rfl)
    · cases h
  · split at h
    · cases List.mem_singleton.1 h
    · cases h

/-- What is asked for is there already. A star brings all names. -/
def Need.IsMet (g : Gathered) : Need → Prop
  | .package => packageName ∈ g.modules
  | .object name => name ∈ g.names packageName ∨ "*" ∈ g.names packageName

theorem missing_package_iff {g : Gathered} {needs : List Need} :
    (g.missing needs).package = true ↔ .package ∈ needs ∧ ¬Need.package.IsMet g := by
  simp [Gathered.missing, Need.IsMet]

theorem mem_missing_objects {g : Gathered} {needs : List Need} {name : String} :
    name ∈ (g.missing needs).objects ↔ .object name ∈ needs ∧ ¬(Need.object name).IsMet g := by
  have hobject : name ∈ needs.filterMap Need.object? ↔ .object name ∈ needs := by
    rw [List.mem_filterMap]
    constructor
    · rintro ⟨n, hn, he⟩
      cases n with
      | package => cases he
      | object => exact Option.some.inj he ▸ hn
    · exact fun hn => ⟨_, hn, rfl⟩
  simp only [Gathered.missing, Need.IsMet, not_or]
  by_cases hstar : "*" ∈ g.names packageName
  · simp [hstar]
  · simp [hstar, mem_sorted, hobject]

end AttrsUpgrade
