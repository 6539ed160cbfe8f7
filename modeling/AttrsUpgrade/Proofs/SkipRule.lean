import AttrsUpgrade.Proofs.Upgraded
import Mathlib.Data.List.Nodup
/-!
# Which classes are skipped

A class is meant to be skipped, with a warning, just if it is itself untyped. The flag tells about the class entered last and
not about the class that is left, so this holds as long as no class that has others inside, and no class entered last in
one, is untyped (`Module.Apart`). Where the classes of a module have different names, it holds in no other case
(`skip_rule_iff_apart`).
-/

namespace AttrsUpgrade

variable {r : Resolver} {s s' : State}

/-! ## Warnings -/

/-- The classes that warnings name: for each class at whose end the flag is up, the one entered last in it. -/
def named (r : Resolver) (cs : List ClassDef) : List ClassDef := (cs.filter (ClassDef.late r)).map ClassDef.last

theorem Visit.warned_eq {n n' : Node} {vs : List ClassVisit} (h : Visit r s n n' s' vs) (ha : s.inAnnotated = false) :
    vs.flatMap ClassVisit.warned = (named r n.classes).map ClassDef.name := by
  have hv := h.inside_late ha
  rw [← h.classes, named]
  clear h
  induction vs with
  | nil => rfl
  | cons v vs ih =>
    obtain ⟨hu, hn⟩ := hv v List.mem_cons_self
    rw [List.flatMap_cons, ih fun w hw => hv w (List.mem_cons_of_mem _ hw), ClassVisit.warned, hu, hn, List.map_cons,
      List.filter_cons]
    cases v.cls.late r <;> rfl

/-- A class at whose end the flag is up is afterwards as it was. -/
def KeptIfLate (r : Resolver) (c c' : ClassDef) : Prop := c.late r = true → c'.view = c.view

theorem ClassDef.KeptOrUpgraded.keptIfLate {c c' : ClassDef} (h : c.KeptOrUpgraded r c'.view) : KeptIfLate r c c' := by
  intro hl
  rcases h with h | h
  · exact h
  · rw [h.late] at hl
    cases hl

/-! ## The rule -/

/-- The rule: untyped classes keep their decorators and their assignments, and they are the ones warned about. -/
structure SkipRule (r : Resolver) (m out : Module) (warned : List String) : Prop where
  kept : List.Forall₂ (fun c c' => c.untyped r = true → c'.view = c.view) m.classes out.classes
  warned : warned.Perm ((m.classes.filter (ClassDef.untyped r)).map ClassDef.name)

/-- No class that has others inside is untyped, nor is the one entered last in it. -/
def Module.Apart (r : Resolver) (m : Module) : Prop :=
  ∀ c ∈ m.classes, c.inner ≠ [] → c.untyped r = false ∧ c.last.untyped r = false

instance (r : Resolver) (m : Module) : Decidable (m.Apart r) := by
  unfold Module.Apart
  infer_instance

section
variable {m out : Module}

theorem Module.Apart.late_eq (h : m.Apart r) {c : ClassDef} (hc : c ∈ m.classes) : c.late r = c.untyped r := by
  by_cases hi : c.inner = []
  · exact ClassDef.late_of_leaf hi
  · obtain ⟨hu, hl⟩ := h c hc hi
    rw [hu, Bool.eq_false_iff]
    intro hf
    obtain ⟨d, hd, hdu, hd'⟩ := ClassDef.late_source hf
    rcases hd' with hd' | rfl
    · rw [(h d (Module.classes_subset hc hd) hd').1] at hdu
      cases hdu
    · rw [hl] at hdu
      cases hdu

/-- In a module of classes apart, the classes that warnings name are the untyped ones. -/
theorem Module.Apart.named_eq (h : m.Apart r) : named r m.classes = m.classes.filter (ClassDef.untyped r) := by
  rw [named, List.filter_congr fun c hc => h.late_eq hc]
  refine (List.map_congr_left fun c hc => ?_).trans (List.map_id _)
  obtain ⟨hm, hu⟩ := List.mem_filter.1 hc
  by_cases hi : c.inner = []
  · exact ClassDef.last_of_leaf hi
  · rw [(h c hm hi).1] at hu
    cases hu

/-- A class that holds others and is untyped is never named, and one whose last class is untyped names that class a second
time. -/
theorem Module.apart_of_named (h : (named r m.classes).Perm (m.classes.filter (ClassDef.untyped r))) : m.Apart r := by
  classical
  intro c hc hi
  refine ⟨Bool.eq_false_iff.2 fun hcu => ?_, Bool.eq_false_iff.2 fun hlu => ?_⟩
  · obtain ⟨d, -, hd⟩ := List.mem_map.1 (h.mem_iff.2 (List.mem_filter.2 ⟨hc, hcu⟩))
    exact hi (hd ▸ d.last_mem.2)
  · have hli := c.last_mem.2
    have hcount := h.countP_eq fun d => d = c.last
    rw [named, List.countP_map, List.countP_filter, List.countP_filter, List.countP_eq_length_filter,
      List.countP_eq_length_filter] at hcount
    have hsub : (m.classes.filter fun d => decide (d = c.last) && d.untyped r).Sublist
        (m.classes.filter fun d => decide (d.last = c.last) && d.late r) := by
      refine List.monotone_filter_right _ fun d hd => ?_
      simp only [Bool.and_eq_true, decide_eq_true_eq] at hd ⊢
      obtain ⟨rfl, hu⟩ := hd
      exact ⟨ClassDef.last_of_leaf hli, (ClassDef.late_of_leaf hli).trans hu⟩
    have hcm : c ∈ m.classes.filter fun d => decide (d.last = c.last) && d.late r :=
      List.mem_filter.2 ⟨hc, by simp [ClassDef.late_of_last hlu]⟩
    rw [← hsub.eq_of_length hcount.symm] at hcm
    simp only [List.mem_filter, Bool.and_eq_true, decide_eq_true_eq] at hcm
    exact hi (hcm.2.1 ▸ hli)

theorem named_subset : named r m.classes ⊆ m.classes := by
  intro d hd
  obtain ⟨c, hc, rfl⟩ := List.mem_map.1 hd
  exact Module.classes_subset (List.mem_filter.1 hc).1 c.last_mem.1

/-- Where classes have different names, a class is told by its name. -/
theorem named_perm_of_names (hn : (m.classes.map ClassDef.name).Nodup)
    (h : ((named r m.classes).map ClassDef.name).Perm ((m.classes.filter (ClassDef.untyped r)).map ClassDef.name)) :
    (named r m.classes).Perm (m.classes.filter (ClassDef.untyped r)) := by
  have hu : ((m.classes.filter (ClassDef.untyped r)).map ClassDef.name).Nodup := hn.sublist (List.filter_sublist.map _)
  refine (List.perm_ext_iff_of_nodup ((h.nodup_iff.2 hu).of_map _) (hu.of_map _)).2 fun c => ?_
  constructor
  · intro hc
    obtain ⟨d, hd, hdc⟩ := List.mem_map.1 (h.mem_iff.1 (List.mem_map_of_mem hc))
    exact List.inj_on_of_nodup_map hn (List.filter_subset_self _ hd) (named_subset hc) hdc ▸ hd
  · intro hc
    obtain ⟨d, hd, hdc⟩ := List.mem_map.1 (h.mem_iff.2 (List.mem_map_of_mem hc))
    exact List.inj_on_of_nodup_map hn (named_subset hd) (List.filter_subset_self _ hc) hdc ▸ hd

theorem SkipRule.of_apart (h : m.Apart r) (hk : List.Forall₂ (KeptIfLate r) m.classes out.classes) :
    SkipRule r m out ((named r m.classes).map ClassDef.name) where
  kept := by
    refine ((List.forall₂_and_left _ _).2 ⟨fun c hc => h.late_eq hc, hk⟩).imp ?_
    rintro c c' ⟨he, hc⟩ hu
    exact hc (he.trans hu)
  warned := .of_eq (by rw [h.named_eq])

end

/-! ## Whole runs -/

/-- In a run that succeeds, a warning names the class entered last in a class at whose end the flag is up, and such a class is
kept. The classes named are the untyped ones just if classes are apart. So the rule holds if they are, and if their names are
different, only then. -/
theorem skip_rule_iff_apart {text : String} {out : Module} (h : (Session.fresh.transform text).result = .ok out) :
    ∃ m table, Module.parse? text = some m ∧ m.scan = .ok table ∧
      let r := table.resolver m
      let names := (named r m.classes).map ClassDef.name
      (Session.fresh.transform text).printed = joinAll (names.map warning) ∧
      List.Forall₂ (KeptIfLate r) m.classes out.classes ∧
      ((named r m.classes).Perm (m.classes.filter (ClassDef.untyped r)) ↔ m.Apart r) ∧
      (m.Apart r → SkipRule r m out names) ∧
      ((m.classes.map ClassDef.name).Nodup → (SkipRule r m out names ↔ m.Apart r)) := by
  obtain ⟨m, table, vs, visited, state, hp, hs, hv, hstate, hclasses⟩ := transform_classes h rfl
  have hkept := hclasses.imp fun _ _ hc => hc.keptIfLate
  have hprint : (Session.fresh.transform text).printed =
      joinAll (((named (table.resolver m) m.classes).map ClassDef.name).map warning) := by
    rw [Run.printed, hstate, hv.skipped, hv.warned_eq rfl]
    rfl
  refine ⟨m, table, hp, hs, hprint, hkept, ⟨Module.apart_of_named, fun ha => .of_eq ha.named_eq⟩, ?_, ?_⟩
  · exact fun ha => SkipRule.of_apart ha hkept
  · exact fun hn => ⟨fun hr => Module.apart_of_named (named_perm_of_names hn hr.warned), fun ha => .of_apart ha hkept⟩

/-- An untyped class, and a class that holds another. -/
def apartText : String :=
  "import attr\n@attr.s\nclass A:\n x = attr.ib()\nclass B:\n class C: pass\n y = attr.ib(type=int)\n"

theorem skip_rule_of_apart_text : ∃ out m table, (Session.fresh.transform apartText).result = .ok out ∧
    Module.parse? apartText = some m ∧ m.scan = .ok table ∧
    (Session.fresh.transform apartText).printed = warning "A" ∧ m.Apart (table.resolver m) ∧
    SkipRule (table.resolver m) m out ["A"] := by
  have heval : observe apartText (fun m r _ => decide (m.Apart r ∧ (named r m.classes).map ClassDef.name = ["A"])) =
      some true := by
    decide +kernel
  obtain ⟨out, m, table, hr, hp, hs, heval⟩ := exists_of_observe heval
  obtain ⟨hm, hn⟩ := of_decide_eq_true heval
  obtain ⟨m', table', hp', hs', hprint, -, -, hrule, -⟩ := skip_rule_iff_apart hr
  cases hp.symm.trans hp'
  cases hs.symm.trans hs'
  rw [hn] at hprint hrule
  exact ⟨out, m, table, hr, hp, hs, hprint, hm, hrule hm⟩

/-- An untyped class that holds another. -/
def nestedText : String := "import attr\n@attr.s\nclass A:\n x = attr.ib()\n class B: pass\n"

/-- It is neither kept nor warned about. -/
theorem nested_text_breaks_skip_rule : ∃ out m table, (Session.fresh.transform nestedText).result = .ok out ∧
    Module.parse? nestedText = some m ∧ m.scan = .ok table ∧ (Session.fresh.transform nestedText).printed = "" ∧
    ∀ names, ¬SkipRule (table.resolver m) m out names := by
  -- of each class, whether it is untyped, and its decorators before and after
  have heval : observe nestedText (fun m r out =>
      (m.classes.map fun c => (c.untyped r, c.decoratorNames), out.classes.map ClassDef.decoratorNames)) =
      some ([(false, []), (true, ["attr.s"])], [[], ["define"]]) := by
    decide +kernel
  have hprint : (Session.fresh.transform nestedText).printed = "" := by decide +kernel
  obtain ⟨out, m, table, hr, hp, hs, heval⟩ := exists_of_observe heval
  obtain ⟨hm, hout⟩ := Prod.mk.inj heval
  refine ⟨out, m, table, hr, hp, hs, hprint, fun names hrule => ?_⟩
  have hk : List.Forall₂ (fun p q => p.1 = true → q = p.2)
      (m.classes.map fun c => (c.untyped (table.resolver m), c.decoratorNames))
      (out.classes.map ClassDef.decoratorNames) := by
    refine List.forall₂_map_left_iff.2 (List.forall₂_map_right_iff.2 (hrule.kept.imp fun c c' h hu => ?_))
    exact congrArg (fun v => v.decorators.filterMap fun d => d.expr.fullName?) (h hu)
  rw [hm, hout] at hk
  simp at hk

end AttrsUpgrade
