import AttrsUpgrade.Proofs.FieldValue
import AttrsUpgrade.Proofs.ImportFrame
import AttrsUpgrade.Proofs.Nesting
import Mathlib.Data.List.Forall2
/-!
# What becomes of a class

In a run that succeeds, every class either stays as it was, or each of its decorators and each assignment in its body is
taken on its own: it is replaced or stays, and which of the two hangs on what the pass has seen up to there (`Seen`).
`transform_classes` says so of the classes of a module, from the text to the end of the run.
-/

namespace AttrsUpgrade

/-! ## What has been seen -/

/-- What the pass goes by inside a class. -/
structure Seen where
  untyped : Bool
  decorated : List String

def State.seen (s : State) : Seen := ⟨s.untyped, s.decorated⟩

namespace Seen
variable (r : Resolver)

/-- What has been seen after events inside a class. -/
def after (k : Seen) (es : List Event) : Seen :=
  ⟨flagAfter r k.untyped es, ((lastEntered es).map ClassDef.decorated).getD k.decorated⟩

/-- A state inside a class in which just this has been seen. -/
def inside (k : Seen) : State := { State.fresh with untyped := k.untyped, decorated := k.decorated, inClass := true }

end Seen

variable {r : Resolver} {s s' : State}

theorem State.Moved.seen {es : List Event} (h : State.Moved r s es s') (hc : s.inClass = true) (ha : s.inAnnotated = false) :
    s'.seen = s.seen.after r es := by
  rw [State.seen, h.untyped hc ha, h.decorated]
  rfl

/-! ## Assignments -/

/-- The assignments among small statements, each with what has been seen when it may be replaced. -/
def itemDeclared (r : Resolver) (k : Seen) : List Item → List (Seen × Item)
  | [] => []
  | i :: is =>
    let k := k.after r i.stmt.events
    if i.stmt.isAssignment then (k, i) :: itemDeclared r k is else itemDeclared r k is

section
variable (r : Resolver)

mutual

/-- The assignments outside of functions and classes, each with what has been seen when it may be replaced. -/
def Stmt.declared (k : Seen) : Stmt → List (Seen × Item)
  | .line l => itemDeclared r k l.items
  | .compound cs => clauseDeclared k cs
  | .funcDef _ _ => []
  | .classDef _ _ => []

def clauseDeclared (k : Seen) : List Clause → List (Seen × Item)
  | [] => []
  | ⟨head, b⟩ :: cs =>
    let k := k.after r (partEvents head.header.parts)
    b.declared k ++ clauseDeclared (k.after r b.events) cs

def Suite.declared (k : Seen) : Suite → List (Seen × Item)
  | .inline _ is _ => itemDeclared r k is
  | .block _ _ xs _ => stmtDeclared k xs

def stmtDeclared (k : Seen) : List Stmt → List (Seen × Item)
  | [] => []
  | x :: xs => x.declared k ++ stmtDeclared (k.after r x.events) xs

end

def Node.declared (k : Seen) : Node → List (Seen × Item)
  | .stmt x => x.declared r k
  | .stmts xs => stmtDeclared r k xs
  | .clauses cs => clauseDeclared r k cs
  | .suite b => b.declared r k

/-- These are all assignments outside of functions and classes. -/
theorem Node.declared_items (n : Node) : ∀ k, (n.declared r k).map Prod.snd = n.assignments false := by
  have hi : ∀ (is : List Item) k, (itemDeclared r k is).map Prod.snd = itemAssignments is := by
    intro is
    induction is with
    | nil => exact fun _ => rfl
    | cons i is ih =>
      intro k
      unfold itemAssignments at ih ⊢
      rw [itemDeclared, List.filter_cons]
      split
      · rw [List.map_cons, ih]
      · exact ih _
  induction n using Node.induct with
  | line l => exact hi l.items
  | inline o is t => exact hi is
  | noClause | noStmt | funcDef | classDef => exact fun _ => rfl
  | compound cs ih | block o i xs f ih => exact ih
  | clause head b cs ihb ihc =>
    intro k
    rw [Node.declared, clauseDeclared, List.map_append]
    exact congrArg₂ (· ++ ·) (ihb _) (ihc _)
  | next x xs ihx ihxs =>
    intro k
    rw [Node.declared, stmtDeclared, List.map_append]
    exact congrArg₂ (· ++ ·) (ihx _) (ihxs _)

/-- What has been seen takes in the assignment itself. -/
theorem Node.declared_after (n : Node) :
    ∀ k, ∀ y ∈ n.declared r k, ∃ k₀ : Seen, y.1 = k₀.after r y.2.stmt.events := by
  have hi : ∀ (is : List Item) k, ∀ y ∈ itemDeclared r k is, ∃ k₀ : Seen, y.1 = k₀.after r y.2.stmt.events := by
    intro is
    induction is with
    | nil => exact fun _ y hy => absurd hy (List.not_mem_nil)
    | cons i is ih =>
      intro k y hy
      rw [itemDeclared] at hy
      split at hy
      · rcases List.mem_cons.1 hy with rfl | hy
        · exact ⟨k, rfl⟩
        · exact ih _ y hy
      · exact ih _ y hy
  induction n using Node.induct with
  | line l => exact hi l.items
  | inline o is t => exact hi is
  | noClause | noStmt | funcDef | classDef => exact fun _ y hy => absurd hy (List.not_mem_nil)
  | compound cs ih | block o i xs f ih => exact ih
  | clause head b cs ihb ihc =>
    intro k y hy
    exact (List.mem_append.1 hy).elim (ihb _ y) (ihc _ y)
  | next x xs ihx ihxs =>
    intro k y hy
    exact (List.mem_append.1 hy).elim (ihx _ y) (ihxs _ y)

/-- What may take the place of an assignment. -/
def Replaces (y : Seen × Item) (i : Item) : Prop :=
  upgradeSmall? r y.1.inside y.2.stmt = .ok none ∧ i = y.2 ∨
    ∃ x, upgradeSmall? r y.1.inside y.2.stmt = .ok (some x) ∧ i = ⟨x, none⟩

end

theorem upgradeSmall?_seen (hc : s.inClass = true) (x : Small) : upgradeSmall? r s.seen.inside x = upgradeSmall? r s x := by
  unfold upgradeSmall?
  simp only [State.seen, Seen.inside, State.forces, hc]

theorem FieldArgs.build_isAssignment {f : FieldArgs} {t hint force source x} (h : f.build t hint force source = .ok x) :
    x.isAssignment = true := by
  obtain ⟨v, -, rfl⟩ := FieldArgs.build_eq_ok.1 h
  cases hint <;> rfl

theorem except_map_some {ε α : Type} {e : Except ε α} {y : α} (h : e.map some = .ok (some y)) : e = .ok y := by
  cases e with
  | error e => cases h
  | ok z =>
    cases h
    rfl

/-- The type of a field is set aside in any case. -/
theorem FieldArgs.parse_withoutType (args : List Arg) :
    FieldArgs.parse (withoutKeyword "type" args) = FieldArgs.parse args := by
  have hd : valuesOf "default" (withoutKeyword "type" args) = valuesOf "default" args := by
    unfold valuesOf withoutKeyword
    rw [List.filterMap_filter]
    refine List.filterMap_congr fun a _ => ?_
    by_cases h : a.keyword? = some "default" <;> simp [h]
  have ho : withoutKeyword "type" (withoutKeyword "type" args) = withoutKeyword "type" args := by
    unfold withoutKeyword
    rw [List.filter_filter]
    simp
  unfold FieldArgs.parse
  rw [hd, ho]

/-- What an assignment, annotated or not, assigns. -/
def Small.assigned? : Small → Option Expr
  | .assign _ value => some value
  | .annAssign _ _ value => value.map Assigned.value
  | _ => none

/-- The annotation of what takes the place of a small statement: its own, or the type that the call gives. -/
def Small.newHint (c : Call) : Small → Option Hint
  | .annAssign _ hint _ => some hint
  | _ => (typeArg? c.args).map Hint.ofExpr

theorem fieldCall?_eq_some {e : Expr} {c : Call} (h : r.fieldCall? e = some c) : c ∈ e.call? ∧ r.isField c = true := by
  rw [Resolver.fieldCall?, Option.filter_eq_some_iff] at h
  exact h

/-- What takes the place of a small statement is built from its first target and the call that it assigns. Without an annotation
the statement has to stand inside of a class. -/
theorem upgradeSmall?_built {x y : Small} (h : upgradeSmall? r s x = .ok (some y)) :
    ∃ target value c, x.target? = some target ∧ x.assigned? = some value ∧ r.fieldCall? value = some c ∧
      (x.isAnnAssign = false → s.inClass = true) ∧
      (FieldArgs.parse c.args).build target (x.newHint c) (s.forces target) r.fieldSource = .ok y := by
  unfold upgradeSmall? at h
  split at h
  · split at h
    · next hc => exact ⟨_, _, _, rfl, rfl, hc, nofun, except_map_some h⟩
    · cases h
  · split at h
    · next hopen hc =>
      rw [FieldArgs.parse_withoutType] at h
      exact ⟨_, _, _, rfl, rfl, hc, fun _ => (Bool.and_eq_true_iff.1 hopen).1, except_map_some h⟩
    · cases h
  · cases h

theorem Small.isAssignment_of_target {x : Small} {target : Expr} (h : x.target? = some target) : x.isAssignment = true := by
  cases x with
  | assign | annAssign => rfl
  | _ => cases h

theorem upgradeSmall?_isAssignment {x y : Small} (h : upgradeSmall? r s x = .ok (some y)) :
    x.isAssignment = true ∧ y.isAssignment = true := by
  obtain ⟨target, value, c, htarget, -, -, -, hbuild⟩ := upgradeSmall?_built h
  exact ⟨Small.isAssignment_of_target htarget, FieldArgs.build_isAssignment hbuild⟩

theorem item_replaces {i i' : Item} (h : Pass.Ok (visitItem r i) s i' s') (hc : s.inClass = true)
    (ha : s.inAnnotated = false) : Replaces r (s.seen.after r i.stmt.events, i) i' := by
  simp only [visitItem, Pass.ok_bind, Pass.ok_modify, Pass.ok_get, Pass.ok_ofExcept] at h
  obtain ⟨u, _, rfl, t, _, ⟨rfl, rfl⟩, y, _, ⟨hy, rfl⟩, h⟩ := h
  have hl := (seeSmall_looked (r := r) i.stmt s).moved
  rw [Replaces, ← hl.seen hc ha, upgradeSmall?_seen (hl.inClass.trans hc)]
  cases y with
  | none => exact .inl ⟨hy, (Pass.ok_pure.1 h).1⟩
  | some x => exact .inr ⟨x, hy, (Pass.ok_pure.1 h).1⟩

theorem items_declared {is is' : List Item} (h : Pass.Ok (visitItems r is) s is' s') (hc : s.inClass = true)
    (ha : s.inAnnotated = false) : List.Forall₂ (Replaces r) (itemDeclared r s.seen is) (itemAssignments is') := by
  induction is generalizing s is' with
  | nil =>
    obtain ⟨rfl, -⟩ := Pass.ok_pure.1 h
    exact .nil
  | cons i is ih =>
    simp only [visitItems, Pass.ok_bind, Pass.ok_pure] at h
    obtain ⟨i', s₁, hi, is', s₂, his, rfl, rfl⟩ := h
    have hr := item_replaces hi hc ha
    have hl := (seeSmall_looked (r := r) i.stmt s).moved
    rw [← item_state hi] at hl
    have hrest := ih his (hl.inClass.trans hc) (hl.inAnnotated ha)
    rw [hl.seen hc ha] at hrest
    unfold itemAssignments at hrest ⊢
    rw [List.filter_cons, itemDeclared]
    cases ha' : i.stmt.isAssignment with
    | true =>
      have hi' : i'.stmt.isAssignment = true := by
        rcases hr with ⟨-, rfl⟩ | ⟨x, hx, rfl⟩
        · exact ha'
        · exact (upgradeSmall?_isAssignment hx).2
      rw [if_pos hi']
      exact .cons hr hrest
    | false =>
      have hi' : i'.stmt.isAssignment = false := by
        rcases hr with ⟨-, rfl⟩ | ⟨x, hx, rfl⟩
        · exact ha'
        · rw [(upgradeSmall?_isAssignment hx).1] at ha'
          cases ha'
      rw [hi']
      exact hrest

theorem Visit.declared {n n' : Node} {vs : List ClassVisit} (h : Visit r s n n' s' vs) (hc : s.inClass = true)
    (ha : s.inAnnotated = false) : List.Forall₂ (Replaces r) (n.declared r s.seen) (n'.assignments false) := by
  induction h with
  | line hi | inline hi => exact items_declared hi hc ha
  | noClause | noStmt | funcDef | classDef => exact .nil
  | compound _ ih | block _ ih => exact ih hc ha
  | @clause s s₁ s' head b b' cs cs' vs vs' hb _ ihb ihc =>
    have hl := (seeParts_looked r head.header.parts s).moved
    have hc₁ := hl.inClass.trans hc
    have ha₁ := hl.inAnnotated ha
    have hb' := ihb hc₁ ha₁
    have hcs := ihc (hb.moved.inClass.trans hc₁) (hb.moved.inAnnotated ha₁)
    rw [hb.moved.seen hc₁ ha₁] at hcs
    rw [hl.seen hc ha] at hb' hcs
    exact List.rel_append hb' hcs
  | next hx _ ihx ihxs =>
    have hxs := ihxs (hx.moved.inClass.trans hc) (hx.moved.inAnnotated ha)
    rw [hx.moved.seen hc ha] at hxs
    exact List.rel_append (ihx hc ha) hxs

/-! ## Decorators -/

/-- The decorators of a class, each with what has been seen when it may be replaced. -/
def decoratorsSeen (r : Resolver) (k : Seen) : List Decorator → List (Seen × Decorator)
  | [] => []
  | d :: ds =>
    let k := k.after r (partEvents [.decorator false d])
    (k, d) :: decoratorsSeen r k ds

/-- Whether a decorator is replaced. -/
def isReplaced (r : Resolver) (y : Seen × Decorator) : Bool := !y.1.untyped && r.isClassDecorator y.2.expr

/-- What takes the place of a decorator. -/
def DecoratorReplaces (r : Resolver) (y : Seen × Decorator) (d : Decorator) : Prop :=
  if isReplaced r y then y.2.upgrade = .ok d else d = y.2

theorem decorator_replaces {d d' : Decorator} (h : Pass.Ok (visitDecorator r d) s d' s') (hc : s'.inClass = true) :
    DecoratorReplaces r (s'.seen, d) d' := by
  have hs := decorator_state h
  simp only [visitDecorator, Pass.ok_bind, Pass.ok_get, see_ok] at h
  obtain ⟨u, _, rfl, t, _, ⟨rfl, rfl⟩, h⟩ := h
  rw [← hs, hc, Bool.true_and] at h
  unfold DecoratorReplaces isReplaced
  split at h
  · next hr => exact (if_pos hr).symm ▸ (Pass.ok_ofExcept.1 h).1
  · next hr => exact (if_neg hr).symm ▸ (Pass.ok_pure.1 h).1

theorem decorators_replace {ds ds' : List Decorator} (h : Pass.Ok (visitDecorators r ds) s ds' s') (hc : s.inClass = true)
    (ha : s.inAnnotated = false) : List.Forall₂ (DecoratorReplaces r) (decoratorsSeen r s.seen ds) ds' := by
  induction ds generalizing s ds' with
  | nil =>
    obtain ⟨rfl, -⟩ := Pass.ok_pure.1 h
    exact .nil
  | cons d ds ih =>
    simp only [visitDecorators, Pass.ok_bind, Pass.ok_pure] at h
    obtain ⟨d', s₁, hd, ds', s₂, hds, rfl, rfl⟩ := h
    have hl := (seeParts_looked r [.decorator false d] s).moved
    rw [← decorator_state hd] at hl
    have hr := decorator_replaces hd (hl.inClass.trans hc)
    have hrest := ih hds (hl.inClass.trans hc) (hl.inAnnotated ha)
    rw [hl.seen hc ha] at hr hrest
    exact .cons hr hrest

/-! ## Classes -/

namespace ClassDef
variable (r : Resolver) (c : ClassDef)

def decoratorNames : List String := c.head.decorators.filterMap fun d => d.expr.fullName?

def seenDecorators : List (Seen × Decorator) := decoratorsSeen r ⟨false, c.decorated⟩ c.head.decorators

/-- The assignments of the class outside of functions, each with what has been seen when it may be replaced. -/
def declared : List (Seen × Item) :=
  c.body.declared r (Seen.after r ⟨false, c.decorated⟩ (decoratorEvents c.head.decorators ++ partEvents c.head.rest))

/-- What the class looks like if it is upgraded. -/
structure UpgradedTo (w : ClassView) : Prop where
  late : c.late r = false
  name : w.name = c.name
  decorators : List.Forall₂ (DecoratorReplaces r) (c.seenDecorators r) w.decorators
  declarations : List.Forall₂ (Replaces r) (c.declared r) w.declarations

/-- A class stays as it was or is upgraded. -/
def KeptOrUpgraded (w : ClassView) : Prop := w = c.view ∨ c.UpgradedTo r w

end ClassDef

theorem Visit.inside_late {n n' : Node} {vs : List ClassVisit} (h : Visit r s n n' s' vs) (ha : s.inAnnotated = false) :
    ∀ v ∈ vs, v.inside.untyped = v.cls.late r ∧ v.inside.className = some v.cls.last.name := by
  intro v hv
  obtain ⟨last, post, hl⟩ := v.cls.lastEntry
  obtain ⟨hu, hn⟩ := (h.ok.2 v hv).inside_eq (h.before_inAnnotated ha v hv) hl
  constructor
  · rw [hu, ClassDef.late, hl.flag]
  · rw [hn, ClassDef.last, hl.lastEntered]
    rfl

theorem upgradedTo_of_visit {s₁ s₂ : State} {h : ClassHead} {ds b b' vs}
    (hd : Pass.Ok (visitDecorators r h.decorators) (s.enterClass ⟨h, b⟩) ds s₁)
    (hb : Visit r (s₁.seeParts r h.rest) (.suite b) (.suite b') s₂ vs) (ha : s.inAnnotated = false)
    (hl : ClassDef.late r ⟨h, b⟩ = false) :
    ClassDef.UpgradedTo r ⟨h, b⟩ (ClassDef.view ⟨{ h with decorators := ds }, b'⟩) where
  late := hl
  name := rfl
  decorators := decorators_replace hd rfl ha
  declarations := by
    have hh := (header_looked hd h.rest).moved
    have hdecl := hb.declared (hh.inClass.trans rfl) (hh.inAnnotated ha)
    rwa [hh.seen rfl ha] at hdecl

theorem Visit.kept_or_upgraded {n n' : Node} {vs : List ClassVisit} (h : Visit r s n n' s' vs) (ha : s.inAnnotated = false) :
    List.Forall₂ (fun c c' => c.KeptOrUpgraded r c'.view) n.classes n'.classes := by
  induction h with
  | line _ | inline _ | noClause | noStmt => exact .nil
  | compound _ ih | block _ ih => exact ih ha
  | funcDef hd _ ih => exact ih ((header_looked hd _).inAnnotated ha)
  | @classDef s s₁ s₂ h ds b b' vs v hd hb hv ih =>
    have hl := ((Visit.classDef hd hb hv).inside_late ha v (by simp)).1
    subst hv
    cases hu : s₂.untyped with
    | true =>
      -- put back: all classes in it are the old ones
      rw [ClassVisit.result, if_pos hu]
      exact List.forall₂_same.2 fun c _ => .inl rfl
    | false =>
      rw [ClassVisit.result, if_neg (by simp [hu])]
      have hc := upgradedTo_of_visit hd hb ha (hl.symm.trans hu)
      exact List.rel_append (ih ((header_looked hd _).inAnnotated ha)) (.cons (.inr hc) .nil)
  | @clause s s₁ s' head b b' cs cs' vs vs' hb _ ihb ihc =>
    have ha₁ := (seeParts_looked r head.header.parts s).inAnnotated ha
    exact List.rel_append (ihb ha₁) (ihc (hb.moved.inAnnotated ha₁))
  | next hx _ ihx ihxs => exact List.rel_append (ihx ha) (ihxs (hx.moved.inAnnotated ha))

/-! ## Whole runs -/

/-- What is left after the pass has no say in the session. -/
theorem Session.finish_session (s : Session) (visited : Module) :
    (s.finish visited).session = { s with needs := s.needs ++ visited.needs } ∧ (s.finish visited).visited = some visited := by
  unfold Session.finish
  simp only
  split <;> exact ⟨rfl, rfl⟩

/-- A transformation that succeeds gets through the pass. -/
theorem transform_eq_finish {s : Session} {text : String} {out : Module} (h : (s.transform text).result = .ok out) :
    ∃ m table visited state, Module.parse? text = some m ∧ m.scan = .ok table ∧
      Pass.Ok (visitModule (table.resolver m) m) s.state visited state ∧ s.transform text = { s with state }.finish visited := by
  unfold Session.transform at h ⊢
  cases hp : Module.parse? text with
  | none =>
    rw [hp] at h
    cases h
  | some m =>
    simp only [hp, Session.transformModule] at h ⊢
    cases hs : m.scan with
    | error e =>
      rw [hs] at h
      cases h
    | ok table =>
      simp only [hs] at h ⊢
      rcases hv : (visitModule (table.resolver m) m).run.run s.state with ⟨_ | visited, state⟩
      · rw [hv] at h
        cases h
      · exact ⟨m, table, visited, state, rfl, hs, hv, rfl⟩

/-- The steps of a transformation that succeeds. -/
theorem transform_ok {s : Session} {text : String} {out : Module} (h : (s.transform text).result = .ok out) :
    ∃ m table visited state, Module.parse? text = some m ∧ m.scan = .ok table ∧
      Pass.Ok (visitModule (table.resolver m) m) s.state visited state ∧
      (s.transform text).session.state = state ∧ (Session.finish { s with state } visited).result = .ok out := by
  obtain ⟨m, table, visited, state, hp, hs, hv, hrun⟩ := transform_eq_finish h
  refine ⟨m, table, visited, state, hp, hs, hv, ?_, hrun ▸ h⟩
  rw [hrun, (Session.finish_session _ visited).1]

/-- The transformation of a module after the pass came to `x`. -/
def Session.goOn (s : Session) (x : Except ArgOrderError Module × State) : Run :=
  match x with
  | (.ok visited, state) => { s with state }.finish visited
  | (.error e, state) => ⟨{ s with state }, none, none, .error (.argOrder e)⟩

theorem Session.transform_of_read {s : Session} {text : String} {m : Module} {table : Table}
    (hm : Module.parse? text = some m) (ht : m.scan = .ok table) :
    s.transform text = s.goOn ((visitModule (table.resolver m) m).run.run s.state) := by
  simp only [Session.transform, hm, Session.transformModule, ht]
  rfl

/-- What a transformation has visited comes from the pass. -/
theorem Session.pass_of_visited {s : Session} {text : String} {m visited : Module} {table : Table}
    (hm : Module.parse? text = some m) (ht : m.scan = .ok table) (hv : (s.transform text).visited = some visited) :
    ∃ t, Pass.Ok (visitModule (table.resolver m) m) s.state visited t := by
  rw [Session.transform_of_read hm ht] at hv
  rcases hrun : (visitModule (table.resolver m) m).run.run s.state with ⟨e | w, t⟩
  · rw [hrun] at hv
    cases hv
  · rw [hrun] at hv
    obtain rfl : w = visited := Option.some.inj ((Session.finish_session _ w).2.symm.trans hv)
    exact ⟨t, hrun⟩

/-- In a run that succeeds, every class stays as it was or is upgraded. -/
theorem transform_classes {s : Session} {text : String} {out : Module} (h : (s.transform text).result = .ok out)
    (ha : s.state.inAnnotated = false) :
    ∃ m table vs visited state, Module.parse? text = some m ∧ m.scan = .ok table ∧
      Visit (table.resolver m) s.state (.stmts m.body) (.stmts visited) state vs ∧
      (s.transform text).session.state = state ∧
      List.Forall₂ (fun c c' => c.KeptOrUpgraded (table.resolver m) c'.view) m.classes out.classes := by
  obtain ⟨m, table, visited, state, hp, hs, hv, hstate, hf⟩ := transform_ok h
  obtain ⟨vs, hvs, -⟩ := visit_of_module hv
  refine ⟨m, table, vs, visited.body, state, hp, hs, hvs, hstate, ?_⟩
  have hk : List.Forall₂ (fun c w => c.KeptOrUpgraded (table.resolver m) w) m.classes (visited.classes.map ClassDef.view) :=
    List.forall₂_map_right_iff.2 (hvs.kept_or_upgraded ha)
  rw [← finish_views hf] at hk
  exact List.forall₂_map_right_iff.1 hk

theorem ok_of_toOption {ε α : Type} {x : Except ε α} {a : α} (h : x.toOption = some a) : x = .ok a := by
  cases x with
  | error e => cases h
  | ok b => exact congrArg _ (Option.some.inj h)

/-- What `f` reads off a run on a text, if it succeeds. -/
def observe {α : Type} (text : String) (f : Module → Resolver → Module → α) : Option α :=
  (Module.parse? text).bind fun m => m.scan.toOption.bind fun table =>
    (Session.fresh.transform text).result.toOption.map (f m (table.resolver m))

theorem exists_of_observe {α : Type} {text : String} {f : Module → Resolver → Module → α} {a : α}
    (h : observe text f = some a) : ∃ out m table, (Session.fresh.transform text).result = .ok out ∧
      Module.parse? text = some m ∧ m.scan = .ok table ∧ f m (table.resolver m) out = a := by
  obtain ⟨m, hp, h⟩ := Option.bind_eq_some_iff.1 h
  obtain ⟨table, hs, h⟩ := Option.bind_eq_some_iff.1 h
  obtain ⟨out, hr, h⟩ := Option.map_eq_some_iff.1 h
  exact ⟨out, m, table, ok_of_toOption hr, hp, ok_of_toOption hs, h⟩

/-- What `f` reads off a text and what the pass makes of it. -/
def observeVisit {α : Type} (text : String) (f : Module → Resolver → Module → α) : Option α :=
  (Module.parse? text).bind fun m => m.scan.toOption.bind fun table =>
    (Session.fresh.transform text).visited.map (f m (table.resolver m))

theorem exists_of_observeVisit {α : Type} {text : String} {f : Module → Resolver → Module → α} {a : α}
    (h : observeVisit text f = some a) : ∃ m table visited, Module.parse? text = some m ∧ m.scan = .ok table ∧
      (Session.fresh.transform text).visited = some visited ∧ f m (table.resolver m) visited = a := by
  obtain ⟨m, hp, h⟩ := Option.bind_eq_some_iff.1 h
  obtain ⟨table, hs, h⟩ := Option.bind_eq_some_iff.1 h
  obtain ⟨visited, hv, h⟩ := Option.map_eq_some_iff.1 h
  exact ⟨m, table, visited, hp, ok_of_toOption hs, hv, h⟩

/-- A default that goes over two lines inside the parentheses of its call. -/
def twoLineText : String := "import attr\nclass A:\n a = attr.ib(type=int,default=1+\n2)\n"

/-- Its parentheses go with the call, and the new text is no module. -/
theorem two_line_text_is_not_read_again : ∃ out m table, (Session.fresh.transform twoLineText).result = .ok out ∧
    Module.parse? twoLineText = some m ∧ m.scan = .ok table ∧ out.print = "\nclass A:\n a: int = 1+\n2\n" ∧
    Module.parse? out.print = none := by
  have heval : observe twoLineText (fun _ _ out =>
      decide (out.print = "\nclass A:\n a: int = 1+\n2\n" ∧ (Module.parse? out.print).isNone)) = some true := by
    decide +kernel
  obtain ⟨out, m, table, hr, hp, hs, heval⟩ := exists_of_observe heval
  obtain ⟨hprint, hnone⟩ := of_decide_eq_true heval
  exact ⟨out, m, table, hr, hp, hs, hprint, Option.isNone_iff_eq_none.1 hnone⟩

end AttrsUpgrade
