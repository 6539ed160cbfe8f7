import AttrsUpgrade.Proofs.Carryover
import AttrsUpgrade.Proofs.Frame
/-!
# Fields and the classes around them

The pass looks at an assignment and at the decorators of a class on their own. So a field may be replaced in a class that
carries no decorator of the old style. What does hold of the innermost class around a field that is replaced
(`replaced_fields_in_upgraded_classes`): it is there if the field has no annotation, it is not put back, and its decorators of
the old style are replaced as well, unless a field without type stands in one of them.
-/

namespace AttrsUpgrade

/-! ## The innermost class -/

mutual

/-- The small statements, each with the innermost class around it; `c` is the one around all of them. -/
def Stmt.enclosed (c : Option ClassDef) : Stmt → List (Option ClassDef × Item)
  | .line l => l.items.map (c, ·)
  | .compound cs => clauseEnclosed c cs
  | .funcDef _ b => b.enclosed c
  | .classDef h b => b.enclosed (some ⟨h, b⟩)

def clauseEnclosed (c : Option ClassDef) : List Clause → List (Option ClassDef × Item)
  | [] => []
  | ⟨_, b⟩ :: cs => b.enclosed c ++ clauseEnclosed c cs

def Suite.enclosed (c : Option ClassDef) : Suite → List (Option ClassDef × Item)
  | .inline _ is _ => is.map (c, ·)
  | .block _ _ xs _ => stmtEnclosed c xs

def stmtEnclosed (c : Option ClassDef) : List Stmt → List (Option ClassDef × Item)
  | [] => []
  | x :: xs => x.enclosed c ++ stmtEnclosed c xs

end

def Node.enclosed (c : Option ClassDef) : Node → List (Option ClassDef × Item)
  | .stmt x => x.enclosed c
  | .stmts xs => stmtEnclosed c xs
  | .clauses cs => clauseEnclosed c cs
  | .suite b => b.enclosed c

def Module.enclosed (m : Module) : List (Option ClassDef × Item) := stmtEnclosed none m.body

/-! ## Decorators of a class that is not put back -/

section
variable (r : Resolver)

/-- A class and what takes its place, as far as the decorators go. -/
structure ClassDef.HeadUpgraded (c c' : ClassDef) : Prop where
  name : c'.name = c.name
  decorators : List.Forall₂ (DecoratorReplaces r) (c.seenDecorators r) c'.head.decorators
  /-- Where no decorator holds a field without type, those of the old style are replaced and the others stay. -/
  typed : (∀ call ∈ headCalls c.head.decorators [], r.isUntyped call = false) →
    List.Forall₂ (fun d d' => if r.isClassDecorator d.expr then d.upgrade = .ok d' else d' = d)
      c.head.decorators c'.head.decorators

/-- A small statement that is replaced, with the class around it before and after. -/
structure Converted (old new : Option ClassDef × Item) : Prop where
  replaced : old.2.Replaced r new.2
  inClass : old.2.stmt.isAnnAssign = false → old.1.isSome = true
  upgraded : ∀ c ∈ old.1, ∃ c' ∈ new.1, c.HeadUpgraded r c'

/-- What becomes of a small statement. -/
def KeptOrConverted (old new : Option ClassDef × Item) : Prop := new.2 = old.2 ∨ Converted r old new

end

variable {r : Resolver} {s s' : State}

theorem decoratorsSeen_snd (k : Seen) (ds : List Decorator) : (decoratorsSeen r k ds).map Prod.snd = ds := by
  induction ds generalizing k with
  | nil => rfl
  | cons d ds ih => rw [decoratorsSeen, List.map_cons, ih]

/-- Decorators without untyped fields leave the flag down. -/
theorem decoratorsSeen_untyped {k : Seen} {ds : List Decorator} (hk : k.untyped = false)
    (hd : ∀ d ∈ ds, ∀ call ∈ (Part.decorator false d).calls, r.isUntyped call = false) :
    ∀ y ∈ decoratorsSeen r k ds, y.1.untyped = false := by
  induction ds generalizing k with
  | nil => exact fun _ hy => absurd hy List.not_mem_nil
  | cons d ds ih =>
    rw [List.forall_mem_cons] at hd
    have hflag : (k.after r (partEvents [.decorator false d])).untyped = false := by
      show flagAfter r k.untyped (partEvents [.decorator false d]) = false
      rw [flagAfter_calls (parts_enter_nothing _), hk, Bool.false_or, raises_partEvents]
      simpa using hd.1
    rw [decoratorsSeen, List.forall_mem_cons]
    exact ⟨hflag, ih hflag hd.2⟩

theorem ClassDef.headUpgraded {c c' : ClassDef} (hname : c'.name = c.name)
    (h : List.Forall₂ (DecoratorReplaces r) (c.seenDecorators r) c'.head.decorators) : c.HeadUpgraded r c' where
  name := hname
  decorators := h
  typed hcalls := by
    have hseen : ∀ y ∈ c.seenDecorators r, y.1.untyped = false := by
      refine decoratorsSeen_untyped rfl fun d hd call hcall => hcalls call ?_
      exact List.mem_append_left _ (List.mem_flatMap.2 ⟨_, List.mem_map_of_mem hd, hcall⟩)
    rw [← decoratorsSeen_snd (r := r) ⟨false, c.decorated⟩ c.head.decorators, List.forall₂_map_left_iff]
    refine ((List.forall₂_and_left _ _).2 ⟨hseen, h⟩).imp ?_
    rintro y d' ⟨hy, hd'⟩
    simpa [DecoratorReplaces, isReplaced, hy] using hd'

/-! ## Small statements -/

/-- A small statement stays, or is replaced by what the state after it says. -/
theorem item_cases {i i' : Item} (h : Pass.Ok (visitItem r i) s i' s') :
    i' = i ∨ upgradeSmall? r s' i.stmt = .ok (some i'.stmt) := by
  simp only [visitItem, Pass.ok_bind, Pass.ok_modify, Pass.ok_get, Pass.ok_ofExcept] at h
  obtain ⟨u, _, rfl, t, _, ⟨rfl, rfl⟩, y, _, ⟨hy, rfl⟩, h⟩ := h
  cases y with
  | none => exact .inl (Pass.ok_pure.1 h).1
  | some x =>
    obtain ⟨rfl, rfl⟩ := Pass.ok_pure.1 h
    exact .inr hy

/-- How the state stands to the innermost class, before and after: there is one just if the pass is inside of a class, and its
decorators have been visited. -/
structure Around (r : Resolver) (s : State) (c c' : Option ClassDef) : Prop where
  inClass : s.inClass = c.isSome
  upgraded : ∀ d ∈ c, ∃ d' ∈ c', d.HeadUpgraded r d'

theorem Around.of_inClass {c c' : Option ClassDef} (h : Around r s c c') (hs : s'.inClass = s.inClass) : Around r s' c c' :=
  ⟨hs.trans h.inClass, h.upgraded⟩

theorem item_converted {i i' : Item} {c c' : Option ClassDef} (h : Pass.Ok (visitItem r i) s i' s') (hc : Around r s c c') :
    KeptOrConverted r (c, i) (c', i') := by
  rcases item_cases h with hkept | hup
  · exact .inl hkept
  · refine (item_edit h).imp_right fun hr => ⟨hr, fun hplain => ?_, hc.upgraded⟩
    have hstate : s'.inClass = s.inClass := by
      rw [item_state h]
      exact (seeSmall_looked i.stmt s).inClass
    obtain ⟨_, _, _, -, -, -, hinside, -⟩ := upgradeSmall?_built hup
    rw [← hc.inClass, ← hstate]
    exact hinside hplain

theorem items_converted {is is' : List Item} {c c' : Option ClassDef} (h : Pass.Ok (visitItems r is) s is' s')
    (hc : Around r s c c') : List.Forall₂ (KeptOrConverted r) (is.map (c, ·)) (is'.map (c', ·)) := by
  induction is generalizing s is' with
  | nil =>
    obtain ⟨rfl, -⟩ := Pass.ok_pure.1 h
    exact .nil
  | cons i is ih =>
    simp only [visitItems, Pass.ok_bind, Pass.ok_pure] at h
    obtain ⟨i', s₁, hi, is', s₂, his, rfl, rfl⟩ := h
    have hstate : s₁.inClass = s.inClass := by
      rw [item_state hi]
      exact (seeSmall_looked i.stmt s).inClass
    exact .cons (item_converted hi hc) (ih his (hc.of_inClass hstate))

/-! ## Visits -/

/-- Every small statement stays or is converted together with the innermost class around it. -/
theorem Visit.converted {n n' : Node} {vs : List ClassVisit} (h : Visit r s n n' s' vs) (ha : s.inAnnotated = false) :
    ∀ c c', Around r s c c' → List.Forall₂ (KeptOrConverted r) (n.enclosed c) (n'.enclosed c') := by
  induction h with
  | line hi | inline hi => exact fun c c' hc => items_converted hi hc
  | compound _ ih | block _ ih => exact ih ha
  | noClause | noStmt => exact fun _ _ _ => .nil
  | @funcDef s s₁ s' h ds b b' vs hd _ ih =>
    have hl := header_looked hd h.rest
    exact fun c c' hc => ih (hl.inAnnotated ha) c c' (hc.of_inClass hl.inClass)
  | @classDef s s₁ s₂ h ds b b' vs v hd _ hv ih =>
    intro c c' _
    subst hv
    cases hu : s₂.untyped with
    | true =>
      -- put back, so that all stays that stands in it
      rw [ClassVisit.result, if_pos hu]
      exact List.forall₂_same.2 fun _ _ => .inl rfl
    | false =>
      rw [ClassVisit.result, if_neg (by simp [hu])]
      have hl := header_looked hd h.rest
      refine ih (hl.inAnnotated ha) (some ⟨h, b⟩) (some ⟨{ h with decorators := ds }, b'⟩) ⟨hl.inClass, ?_⟩
      rintro d ⟨⟩
      exact ⟨_, rfl, ClassDef.headUpgraded rfl (decorators_replace hd rfl ha)⟩
  | @clause s s₁ s' head b b' cs cs' vs vs' hb _ ihb ihc =>
    intro c c' hc
    have hl := seeParts_looked r head.header.parts s
    have hc₁ := hc.of_inClass hl.inClass
    exact List.rel_append (ihb (hl.inAnnotated ha) c c' hc₁)
      (ihc (hb.moved.inAnnotated (hl.inAnnotated ha)) c c' (hc₁.of_inClass hb.moved.inClass))
  | next hx _ ihx ihxs =>
    intro c c' hc
    exact List.rel_append (ihx ha c c' hc) (ihxs (hx.moved.inAnnotated ha) c c' (hc.of_inClass hx.moved.inClass))

/-! ## Main theorem -/

/-- In the tree that the pass makes of a module, every small statement is as it was, or it is an assignment of a field call
that was replaced; then it has a class around it unless it is annotated, and the innermost class around it had its decorators
of the old style replaced, but for those that come with a field without type. -/
theorem replaced_fields_in_upgraded_classes {text : String} {m visited : Module} {table : Table}
    (hp : Module.parse? text = some m) (hs : m.scan = .ok table)
    (hv : (Session.fresh.transform text).visited = some visited) :
    List.Forall₂ (KeptOrConverted (table.resolver m)) m.enclosed visited.enclosed := by
  obtain ⟨t, vs, hvisit⟩ := Session.visit_of_visited hp hs hv
  exact hvisit.converted rfl none none ⟨rfl, fun _ hd => nomatch hd⟩

/-- The name and the decorators of the class around a small statement, and the text of that. -/
def describe (y : Option ClassDef × Item) : Option (String × List String) × String :=
  (y.1.map fun c => (c.name, c.head.decorators.map fun d => d.expr.text), y.2.stmt.text)

theorem exists_of_describe {text : String} {old new : List (Option (String × List String) × String)}
    (h : observeVisit text (fun m _ visited => decide (m.enclosed.map describe = old ∧ visited.enclosed.map describe = new)) =
      some true) :
    ∃ m table visited, Module.parse? text = some m ∧ m.scan = .ok table ∧
      (Session.fresh.transform text).visited = some visited ∧
      m.enclosed.map describe = old ∧ visited.enclosed.map describe = new := by
  obtain ⟨m, table, visited, hp, hs, hv, heval⟩ := exists_of_observeVisit h
  exact ⟨m, table, visited, hp, hs, hv, of_decide_eq_true heval⟩

/-- A class of the old style with another one in it, and a field after that. -/
def innerText : String :=
  "import attr\n@attr.s\nclass A:\n @attr.s\n class B:\n  y: int = attr.ib(default=1)\n x = attr.ib(type=int)\n"

theorem inner_text_upgrades_both : ∃ m table visited, Module.parse? innerText = some m ∧ m.scan = .ok table ∧
    (Session.fresh.transform innerText).visited = some visited ∧
    m.enclosed.map describe = [(none, "import attr"),
      (some ("B", ["attr.s"]), "y: int = attr.ib(default=1)"), (some ("A", ["attr.s"]), "x = attr.ib(type=int)")] ∧
    visited.enclosed.map describe = [(none, "import attr"),
      (some ("B", ["define"]), "y: int = 1"), (some ("A", ["define"]), "x: int")] ∧
    List.Forall₂ (KeptOrConverted (table.resolver m)) m.enclosed visited.enclosed := by
  have heval : observeVisit innerText (fun m _ visited => decide (
      m.enclosed.map describe = [(none, "import attr"),
        (some ("B", ["attr.s"]), "y: int = attr.ib(default=1)"), (some ("A", ["attr.s"]), "x = attr.ib(type=int)")] ∧
      visited.enclosed.map describe = [(none, "import attr"),
        (some ("B", ["define"]), "y: int = 1"), (some ("A", ["define"]), "x: int")])) = some true := by
    decide +kernel
  obtain ⟨m, table, visited, hp, hs, hv, hold, hnew⟩ := exists_of_describe heval
  exact ⟨m, table, visited, hp, hs, hv, hold, hnew, replaced_fields_in_upgraded_classes hp hs hv⟩

/-- A class with a field and no decorator. -/
def bareClassText : String := "import attr\nclass A:\n x = attr.ib(type=int)\n"

/-- Its field is replaced. -/
theorem bare_class_is_converted : ∃ m table visited, Module.parse? bareClassText = some m ∧ m.scan = .ok table ∧
    (Session.fresh.transform bareClassText).visited = some visited ∧
    m.enclosed.map describe = [(none, "import attr"), (some ("A", []), "x = attr.ib(type=int)")] ∧
    visited.enclosed.map describe = [(none, "import attr"), (some ("A", []), "x: int")] :=
  exists_of_describe (by decide +kernel)

/-- A field with an annotation and no class around it. -/
def looseFieldText : String := "import attr\nx: int = attr.ib(default=1)\n"

/-- Only an assignment without annotation needs the class: this one is replaced. -/
theorem loose_field_is_converted : ∃ m table visited, Module.parse? looseFieldText = some m ∧ m.scan = .ok table ∧
    (Session.fresh.transform looseFieldText).visited = some visited ∧
    m.enclosed.map describe = [(none, "import attr"), (none, "x: int = attr.ib(default=1)")] ∧
    visited.enclosed.map describe = [(none, "import attr"), (none, "x: int = 1")] :=
  exists_of_describe (by decide +kernel)

/-- A class with a field without type in its first decorator, and another class before its own field. -/
def calledDecoratorText : String :=
  "import attr\n@f(attr.ib())\n@attr.s\nclass A:\n class B: pass\n x = attr.ib(type=int)\n"

/-- The second decorator stays, with the flag raised by the first. The inner class takes the flag down again, so the class is not
put back and its field is replaced under a decorator of the old style. -/
theorem called_decorator_stays : ∃ m table visited, Module.parse? calledDecoratorText = some m ∧ m.scan = .ok table ∧
    (Session.fresh.transform calledDecoratorText).visited = some visited ∧
    m.enclosed.map describe = [(none, "import attr"), (some ("B", []), "pass"),
      (some ("A", ["f(attr.ib())", "attr.s"]), "x = attr.ib(type=int)")] ∧
    visited.enclosed.map describe = [(none, "import attr"), (some ("B", []), "pass"),
      (some ("A", ["f(attr.ib())", "attr.s"]), "x: int")] :=
  exists_of_describe (by decide +kernel)

end AttrsUpgrade
