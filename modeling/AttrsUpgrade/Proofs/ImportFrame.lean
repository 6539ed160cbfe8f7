import AttrsUpgrade.Proofs.Nodes
import AttrsUpgrade.Upgrade.Transform
/-!
# Imports and classes

After the pass, imports are added and removed. This leaves of every class its name, its decorators and its assignments
(`finish_views`), so that what the pass does to them is what the whole transformation does.
-/

namespace AttrsUpgrade

/-- What imports have no part in. -/
structure ClassView where
  name : String
  decorators : List Decorator
  /-- The assignments in the body, with those in functions. -/
  assignments : List Item
  /-- The assignments in the body, without those in functions. -/
  declarations : List Item

def ClassDef.view (c : ClassDef) : ClassView := ⟨c.name, c.head.decorators, c.assignments true, c.assignments false⟩

/-- Two nodes with the same classes and assignments, imports apart. -/
structure SameClasses (n n' : Node) : Prop where
  views : n'.classes.map ClassDef.view = n.classes.map ClassDef.view
  assignments : ∀ deep, n'.assignments deep = n.assignments deep

/-! ## Nodes in nodes -/

theorem stmtClasses_append (xs ys : List Stmt) : stmtClasses (xs ++ ys) = stmtClasses xs ++ stmtClasses ys := by
  induction xs with
  | nil => rfl
  | cons x xs ih => rw [List.cons_append, stmtClasses, ih, stmtClasses, List.append_assoc]

theorem stmtAssignments_append (deep : Bool) (xs ys : List Stmt) :
    stmtAssignments deep (xs ++ ys) = stmtAssignments deep xs ++ stmtAssignments deep ys := by
  induction xs with
  | nil => rfl
  | cons x xs ih => rw [List.cons_append, stmtAssignments, ih, stmtAssignments, List.append_assoc]

namespace SameClasses
variable {n n' n'' : Node} {b b' : Suite} {xs xs' ys ys' : List Stmt}

theorem refl (n : Node) : SameClasses n n := ⟨rfl, fun _ => rfl⟩

theorem trans (h : SameClasses n n') (h' : SameClasses n' n'') : SameClasses n n'' where
  views := h'.views.trans h.views
  assignments deep := (h'.assignments deep).trans (h.assignments deep)

theorem symm (h : SameClasses n n') : SameClasses n' n := ⟨h.views.symm, fun deep => (h.assignments deep).symm⟩

theorem append (hx : SameClasses (.stmts xs) (.stmts xs')) (hy : SameClasses (.stmts ys) (.stmts ys')) :
    SameClasses (.stmts (xs ++ ys)) (.stmts (xs' ++ ys')) where
  views := by
    have h₁ := hx.views
    have h₂ := hy.views
    simp only [Node.classes, stmtClasses_append, List.map_append] at h₁ h₂ ⊢
    rw [h₁, h₂]
  assignments deep := by
    have h₁ := hx.assignments deep
    have h₂ := hy.assignments deep
    simp only [Node.assignments, stmtAssignments_append] at h₁ h₂ ⊢
    rw [h₁, h₂]

theorem stmts_singleton (x : Stmt) : SameClasses (.stmt x) (.stmts [x]) where
  views := by simp [Node.classes, stmtClasses]
  assignments deep := by simp [Node.assignments, stmtAssignments]

theorem singleton {x x' : Stmt} (h : SameClasses (.stmt x) (.stmt x')) : SameClasses (.stmts [x]) (.stmts [x']) where
  views := by simpa [Node.classes, stmtClasses] using h.views
  assignments deep := by simpa [Node.assignments, stmtAssignments] using h.assignments deep

theorem clause {head : ClauseHead} {cs cs' : List Clause} (hb : SameClasses (.suite b) (.suite b'))
    (hc : SameClasses (.clauses cs) (.clauses cs')) :
    SameClasses (.clauses (⟨head, b⟩ :: cs)) (.clauses (⟨head, b'⟩ :: cs')) where
  views := by
    have h₁ := hb.views
    have h₂ := hc.views
    simp only [Node.classes, clauseClasses, List.map_append] at h₁ h₂ ⊢
    rw [h₁, h₂]
  assignments deep := by
    have h₁ := hb.assignments deep
    have h₂ := hc.assignments deep
    simp only [Node.assignments, clauseAssignments] at h₁ h₂ ⊢
    rw [h₁, h₂]

theorem funcDef {h : FuncHead} (hb : SameClasses (.suite b) (.suite b')) :
    SameClasses (.stmt (.funcDef h b)) (.stmt (.funcDef h b')) where
  views := hb.views
  assignments deep := by
    have h₁ : b'.assignments deep = b.assignments deep := hb.assignments deep
    rw [Node.assignments, Node.assignments, Stmt.assignments, Stmt.assignments, h₁]

theorem classDef {h : ClassHead} (hb : SameClasses (.suite b) (.suite b')) :
    SameClasses (.stmt (.classDef h b)) (.stmt (.classDef h b')) where
  views := by
    have h₁ : b'.classes.map ClassDef.view = b.classes.map ClassDef.view := hb.views
    have h₂ : ∀ deep, b'.assignments deep = b.assignments deep := hb.assignments
    simp only [Node.classes, Stmt.classes, List.map_append, h₁, List.map_cons, ClassDef.view, ClassDef.assignments, h₂]
    rfl
  assignments _ := rfl

end SameClasses

/-! ## Names for an import that is there -/

theorem Small.receive_cases (names : List Alias) (x : Small) : (x.receive names).1 = x ∨
    x.isAssignment = false ∧ (x.receive names).1.isAssignment = false := by
  cases x with
  | importFrom f =>
    refine .inr ⟨rfl, ?_⟩
    simp only [Small.receive]
    split
    · rfl
    · split <;> rfl
  | _ => exact .inl rfl

theorem receiveItems_assignments (is : List Item) :
    ∀ names, itemAssignments (receiveItems names is).1 = itemAssignments is := by
  induction is with
  | nil => exact fun _ => rfl
  | cons i is ih =>
    intro names
    simp only [receiveItems, itemAssignments, List.filter_cons] at ih ⊢
    rcases i.stmt.receive_cases names with h | ⟨h, h'⟩
    · rw [h, ih]
    · simp [h, h', ih]

def Node.receive (names : List Alias) : Node → Node
  | .stmt x => .stmt (x.receive names).1
  | .stmts xs => .stmts (receiveStmts names xs).1
  | .clauses cs => .clauses (receiveClauses names cs).1
  | .suite b => .suite (b.receive names).1

theorem Node.receive_same (n : Node) : ∀ names, SameClasses n (n.receive names) := by
  induction n using Node.induct with
  | line l => exact fun names => ⟨rfl, fun _ => receiveItems_assignments _ names⟩
  | inline o is t => exact fun names => ⟨rfl, fun _ => receiveItems_assignments _ names⟩
  | compound cs ih => exact fun names => ⟨(ih names).views, (ih names).assignments⟩
  | block o i xs f ih => exact fun names => ⟨(ih names).views, (ih names).assignments⟩
  | funcDef h b ih => exact fun names => .funcDef (ih names)
  | classDef h b ih => exact fun names => .classDef (ih names)
  | noClause | noStmt => exact fun _ => .refl _
  | clause head b cs ihb ihc => exact fun names => .clause (ihb names) (ihc _)
  | next x xs ihx ihxs => exact fun names => .append (.singleton (ihx names)) (ihxs _)

/-! ## New lines -/

theorem setLeading_same (lines : List Span) (x : Stmt) : SameClasses (.stmt x) (.stmt (x.setLeading lines)) := by
  cases x with
  | line l => exact ⟨rfl, fun _ => rfl⟩
  | funcDef h b => exact ⟨rfl, fun _ => rfl⟩
  | classDef h b => exact ⟨by simp [Stmt.setLeading, Node.classes, Stmt.classes, ClassDef.view, ClassDef.name,
      ClassDef.assignments], fun _ => rfl⟩
  | compound cs =>
    cases cs with
    | nil => exact .refl _
    | cons c cs =>
      obtain ⟨head, b⟩ := c
      exact ⟨rfl, fun _ => rfl⟩

theorem setApart_same (xs : List Stmt) : SameClasses (.stmts xs) (.stmts (setApart xs)) := by
  cases xs with
  | nil => exact .refl _
  | cons x xs =>
    have hx : ∀ lines, SameClasses (.stmts (x :: xs)) (.stmts (x.setLeading lines :: xs)) :=
      fun lines => .append (.singleton (setLeading_same lines x)) (.refl (.stmts xs))
    simp only [setApart]
    split
    · exact hx _
    · split
      · exact hx _
      · exact .refl _

theorem newImports_same (package : Bool) (names : List Alias) : SameClasses (.stmts []) (.stmts (newImports package names)) := by
  unfold newImports
  cases package <;> cases names.isEmpty <;> exact ⟨rfl, fun _ => rfl⟩

theorem insert_same (place : Nat) (package : Bool) (names : List Alias) (xs : List Stmt) :
    SameClasses (.stmts xs) (.stmts (xs.take place ++ newImports package names ++ setApart (xs.drop place))) := by
  have h := SameClasses.append (.append (.refl (.stmts (xs.take place))) (newImports_same package names))
    (setApart_same (xs.drop place))
  rwa [List.append_nil, List.take_append_drop] at h

theorem addImports_same {m m' : Module} {needs : List Need} (h : m.addImports needs = .ok m') :
    SameClasses (.stmts m.body) (.stmts m'.body) := by
  have hr := Node.receive_same (.stmts m.body) ((m.imports.missing needs).objects.map Alias.ofName)
  simp only [Module.addImports] at h
  split at h
  · cases h
    exact hr
  · split at h
    · cases h
      exact hr.trans (insert_same _ _ _ _)
    · cases h

/-! ## Imports that go -/

theorem Small.dropAliases_cases (u : Usage) (s : Scope) (x : Small) : x.dropAliases u s = some x ∨
    x.isAssignment = false ∧ (x.dropAliases u s).all (fun y => !y.isAssignment) = true := by
  cases x with
  | importNames o as =>
    refine .inr ⟨rfl, ?_⟩
    simp only [Small.dropAliases]
    split <;> rfl
  | importFrom f =>
    refine .inr ⟨rfl, ?_⟩
    simp only [Small.dropAliases]
    split
    · split <;> rfl
    · rfl
  | _ => exact .inl rfl

theorem dropAliases_assignments (u : Usage) (s : Scope) (is : List Item) :
    itemAssignments (is.filterMap (Item.dropAliases u s)) = itemAssignments is := by
  induction is with
  | nil => rfl
  | cons i is ih =>
    rw [List.filterMap_cons, Item.dropAliases]
    unfold itemAssignments at ih ⊢
    rcases i.stmt.dropAliases_cases u s with h | ⟨hi, h⟩
    · simp [h, List.filter_cons, ih]
    · cases hd : i.stmt.dropAliases u s with
      | none => simp [hi, ih]
      | some y =>
        have hy : y.isAssignment = false := by simpa [hd] using h
        simp [hi, hy, ih]

/-- A node without the imports that are dropped. A statement may go as a whole. -/
def Node.removeImports (u : Usage) (s : Scope) : Node → Node
  | .stmt x => .stmts (x.removeImports u s).toList
  | .stmts xs => .stmts (removeFromStmts u s xs)
  | .clauses cs => .clauses (removeFromClauses u s cs)
  | .suite b => .suite (b.removeImports u s)

theorem Node.removeImports_same (u : Usage) (n : Node) : ∀ s, SameClasses n (n.removeImports u s) := by
  induction n using Node.induct with
  | line l =>
    intro s
    have hi := dropAliases_assignments u s l.items
    rw [Node.removeImports, Stmt.removeImports]
    split
    · next he =>
      rw [he] at hi
      exact ⟨rfl, fun _ => hi⟩
    · have h : SameClasses (.stmt (.line l)) (.stmt (.line { l with items := l.items.filterMap (Item.dropAliases u s) })) :=
        ⟨rfl, fun _ => hi⟩
      exact h.trans (.stmts_singleton _)
  | inline o is t => exact fun s => ⟨rfl, fun _ => dropAliases_assignments u s is⟩
  | compound cs ih =>
    intro s
    have h : SameClasses (.stmt (.compound cs)) (.stmt (.compound (removeFromClauses u s cs))) :=
      ⟨(ih s).views, (ih s).assignments⟩
    exact h.trans (.stmts_singleton _)
  | block o i xs f ih => exact fun s => ⟨(ih s).views, (ih s).assignments⟩
  | funcDef h b ih => exact fun s => .trans (.funcDef (ih _)) (.stmts_singleton _)
  | classDef h b ih => exact fun s => .trans (.classDef (ih _)) (.stmts_singleton _)
  | noClause | noStmt => exact fun _ => .refl _
  | clause head b cs ihb ihc => exact fun s => .clause (ihb s) (ihc s)
  | next x xs ihx ihxs =>
    intro s
    have h := SameClasses.append ((SameClasses.stmts_singleton x).symm.trans (ihx s)) (ihxs s)
    rw [Node.removeImports, removeFromStmts]
    cases hx : x.removeImports u s with
    | none => simpa [hx] using h
    | some y => simpa [hx] using h

theorem removeImports_same {m m' : Module} (h : m.removeImports = .ok m') :
    SameClasses (.stmts m.body) (.stmts m'.body) := by
  unfold Module.removeImports at h
  split at h
  · cases h
  · split at h
    · cases h
    · split at h
      · cases h
      · cases h
        exact Node.removeImports_same _ (.stmts m.body) []

/-- After the pass, the transformation leaves of every class what it has to do with fields. -/
theorem finish_views {s : Session} {m out : Module} (h : (s.finish m).result = .ok out) :
    out.classes.map ClassDef.view = m.classes.map ClassDef.view := by
  unfold Session.finish at h
  cases ha : m.addImports (s.needs ++ m.needs) with
  | error e =>
    simp only [ha] at h
    cases h
  | ok added =>
    simp only [ha] at h
    cases hr : added.removeImports with
    | error e =>
      rw [hr] at h
      cases h
    | ok m' =>
      rw [hr] at h
      cases h
      exact ((addImports_same ha).trans (removeImports_same hr)).views

end AttrsUpgrade
