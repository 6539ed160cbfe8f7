import AttrsUpgrade.Proofs.Flag
/-!
# Classes do not influence each other

Of the state that earlier statements leave, a class that stands in no other class reads only whether the pass is inside a
class or an annotated assignment: all the rest is overwritten on entering it, and warnings are only ever added to. So one
and the same thing becomes of it whatever came before (`class_visited_alike`).
-/

namespace AttrsUpgrade

/-! ## Steps that do not look at the warnings -/

/-- The state with earlier warnings before its own. -/
def State.afterWarnings (w : List String) (s : State) : State := { s with skipped := w ++ s.skipped }

/-- Earlier warnings stay in front, and have no part in what the step does. -/
def Pass.Blind {α : Type} (p : Pass α) : Prop :=
  ∀ w s, p.run.run (s.afterWarnings w) = ((p.run.run s).1, (p.run.run s).2.afterWarnings w)

namespace Pass
variable {α β : Type}

theorem Blind.pure (a : α) : Blind (pure a : Pass α) := fun _ _ => rfl

theorem Blind.ofExcept (x : Except ArgOrderError α) : Blind (ofExcept x) := fun _ _ => rfl

theorem Blind.modify {f : State → State} (hf : ∀ w s, f (s.afterWarnings w) = (f s).afterWarnings w) :
    Blind (modify f : Pass PUnit) := by
  intro w s
  exact congrArg (Prod.mk (Except.ok ())) (hf w s)

theorem Blind.bind {p : Pass α} {f : α → Pass β} (hp : Blind p) (hf : ∀ a, Blind (f a)) : Blind (p >>= f) := by
  intro w s
  have hps := hp w s
  simp only [ExceptT.run_bind, StateT.run_bind] at hps ⊢
  rcases he : p.run.run s with ⟨_ | a, s₁⟩
  · rw [he] at hps
    rw [hps]
    rfl
  · rw [he] at hps
    rw [hps]
    exact hf a w s₁

/-- The state may be read as long as its warnings are not. -/
theorem Blind.get {f : State → Pass α} (hf : ∀ s, Blind (f s)) (hw : ∀ w s, f (s.afterWarnings w) = f s) :
    Blind (get >>= f) := by
  intro w s
  have h := hf s w s
  rw [← hw w s] at h
  exact h.trans (by rw [hw w s]; rfl)

end Pass

theorem State.see_afterWarnings (r : Resolver) (calls : List Call) (w : List String) (s : State) :
    (s.afterWarnings w).see r calls = (s.see r calls).afterWarnings w := by
  unfold State.see State.afterWarnings
  split <;> rfl

theorem State.seeSmall_afterWarnings (r : Resolver) (x : Small) (w : List String) (s : State) :
    (s.afterWarnings w).seeSmall r x = (s.seeSmall r x).afterWarnings w := by
  cases x with
  | annAssign target hint value => rfl
  | _ => exact State.see_afterWarnings r _ w s

theorem State.leave_afterWarnings (outside : Bool) (w : List String) (s : State) :
    (s.afterWarnings w).leave outside = (s.leave outside).afterWarnings w := by
  unfold State.leave State.afterWarnings
  cases s.untyped <;> simp

section
variable (r : Resolver)

theorem see_blind (ps : List Part) : Pass.Blind (see r ps) := .modify (State.see_afterWarnings r _)

theorem visitItem_blind (i : Item) : Pass.Blind (visitItem r i) := by
  refine .bind (.modify (State.seeSmall_afterWarnings r i.stmt)) fun _ => .get (fun s => ?_) fun _ _ => rfl
  refine .bind (.ofExcept _) fun y => ?_
  cases y with
  | none => exact .pure _
  | some x => exact .pure _

theorem visitItems_blind (is : List Item) : Pass.Blind (visitItems r is) := by
  induction is with
  | nil => exact .pure _
  | cons i is ih => exact .bind (visitItem_blind r i) fun _ => .bind ih fun _ => .pure _

theorem visitDecorator_blind (d : Decorator) : Pass.Blind (visitDecorator r d) := by
  refine .bind (see_blind r _) fun _ => .get (fun s => ?_) fun _ _ => rfl
  split
  · exact .ofExcept _
  · exact .pure _

theorem visitDecorators_blind (ds : List Decorator) : Pass.Blind (visitDecorators r ds) := by
  induction ds with
  | nil => exact .pure _
  | cons d ds ih => exact .bind (visitDecorator_blind r d) fun _ => .bind ih fun _ => .pure _

/-- The pass through a class after entering it; `outside` tells whether the class itself is inside one. -/
def visitEntered (c : ClassDef) (outside : Bool) : Pass Stmt := do
  let decorators ← visitDecorators r c.head.decorators
  see r c.head.rest
  let new ← visitSuite r c.body
  let s ← get
  set (s.leave outside)
  return if s.untyped then c.stmt else .classDef { c.head with decorators } new

theorem visitStmt_class (c : ClassDef) :
    visitStmt r c.stmt = get >>= fun s => modify (State.enterClass c) >>= fun _ => visitEntered r c s.inClass := rfl

theorem visitEntered_blind {c : ClassDef} (hb : Pass.Blind (visitSuite r c.body)) (outside : Bool) :
    Pass.Blind (visitEntered r c outside) := by
  refine .bind (visitDecorators_blind r _) fun ds => .bind (see_blind r _) fun _ => .bind hb fun new => ?_
  intro w s
  exact congrArg (Prod.mk _) (State.leave_afterWarnings outside w s)

theorem visitClass_blind {c : ClassDef} (hb : Pass.Blind (visitSuite r c.body)) : Pass.Blind (visitStmt r c.stmt) := by
  rw [visitStmt_class]
  exact .get (fun s => .bind (.modify fun _ _ => rfl) fun _ => visitEntered_blind r hb _) fun _ _ => rfl

/-- The pass on the node does not look at the warnings. -/
def Node.Blind : Node → Prop
  | .stmt x => Pass.Blind (visitStmt r x)
  | .stmts xs => Pass.Blind (visitStmts r xs)
  | .clauses cs => Pass.Blind (visitClauses r cs)
  | .suite b => Pass.Blind (visitSuite r b)

theorem Node.blind (n : Node) : n.Blind r := by
  induction n using Node.induct with
  | line l => exact .bind (visitItems_blind r _) fun _ => .pure _
  | inline o is t => exact .bind (visitItems_blind r _) fun _ => .pure _
  | compound cs ih => exact Pass.Blind.bind ih fun _ => .pure _
  | block o i xs f ih => exact Pass.Blind.bind ih fun _ => .pure _
  | funcDef h b ih =>
    refine .bind (visitDecorators_blind r _) fun _ => .bind (see_blind r _) fun _ => ?_
    exact Pass.Blind.bind ih fun _ => .pure _
  | classDef h b ih => exact visitClass_blind r (c := ⟨h, b⟩) ih
  | noClause | noStmt => exact .pure _
  | clause head b cs ihb ihc =>
    have hclause : Pass.Blind (visitClause r ⟨head, b⟩) :=
      .bind (see_blind r _) fun _ => Pass.Blind.bind ihb fun _ => .pure _
    exact .bind hclause fun _ => Pass.Blind.bind ihc fun _ => .pure _
  | next x xs ihx ihxs => exact Pass.Blind.bind ihx fun _ => Pass.Blind.bind ihxs fun _ => .pure _

end

/-! ## Classes at the top level -/

/-- The state between two statements that stand in no class. -/
structure State.Closed (s : State) : Prop where
  inClass : s.inClass = false
  inAnnotated : s.inAnnotated = false

variable {r : Resolver} {s s' : State}

/-- Entering a class leaves of a closed state only its warnings. -/
theorem State.Closed.enterClass (h : s.Closed) (c : ClassDef) :
    s.enterClass c = (State.fresh.enterClass c).afterWarnings s.skipped := by
  simp [State.enterClass, State.enter, State.afterWarnings, State.fresh, h.inAnnotated]

/-- A class in a closed state is visited as in a fresh one. -/
theorem State.Closed.visit_class (h : s.Closed) (r : Resolver) (c : ClassDef) :
    (visitStmt r c.stmt).run.run s = (((visitStmt r c.stmt).run.run .fresh).1,
      ((visitStmt r c.stmt).run.run .fresh).2.afterWarnings s.skipped) := by
  have hrun : ∀ t : State, t.inClass = false →
      (visitStmt r c.stmt).run.run t = (visitEntered r c false).run.run (t.enterClass c) := by
    intro t ht
    rw [← ht]
    rfl
  rw [hrun s h.inClass, hrun .fresh rfl, h.enterClass]
  exact visitEntered_blind r (Node.blind r (.suite c.body)) false s.skipped _

theorem State.Closed.of_stmts {xs xs' : List Stmt} (h : s.Closed) (hv : Pass.Ok (visitStmts r xs) s xs' s') : s'.Closed := by
  obtain ⟨vs, hv⟩ := visit_of_ok (.stmts xs) (Pass.ok_map.2 ⟨xs', hv, rfl⟩)
  exact ⟨hv.moved.inClass.trans h.inClass, hv.moved.inAnnotated h.inAnnotated⟩

theorem Pass.run_bind_ok {α β : Type} {p : Pass α} {f : α → Pass β} {a : α} (h : Pass.Ok p s a s') :
    (p >>= f).run.run s = (f a).run.run s' := by
  rw [ExceptT.run_bind, StateT.run_bind, h]
  rfl

theorem Pass.run_bind_error {α β : Type} {p : Pass α} {f : α → Pass β} {e : ArgOrderError}
    (h : p.run.run s = (.error e, s')) : (p >>= f).run.run s = (.error e, s') := by
  rw [ExceptT.run_bind, StateT.run_bind, h]
  rfl

theorem Pass.run_map {α β : Type} (p : Pass α) (g : α → β) (s : State) :
    (p >>= fun a => pure (g a)).run.run s = Prod.map (Except.map g) id (p.run.run s) := by
  simp only [ExceptT.run_bind, StateT.run_bind]
  rcases p.run.run s with ⟨_ | a, s₁⟩ <;> rfl

/-- Statements after others that the pass gets through. -/
theorem visitStmts_append {xs ys zs : List Stmt} (h : Pass.Ok (visitStmts r xs) s zs s') :
    (visitStmts r (xs ++ ys)).run.run s = Prod.map (Except.map (zs ++ ·)) id ((visitStmts r ys).run.run s') := by
  induction xs generalizing s zs with
  | nil =>
    obtain ⟨rfl, rfl⟩ := Pass.ok_pure.1 h
    rw [List.nil_append]
    rcases (visitStmts r ys).run.run s' with ⟨_ | _, _⟩ <;> rfl
  | cons x xs ih =>
    simp only [visitStmts, Pass.ok_bind, Pass.ok_pure] at h
    obtain ⟨x', s₁, hx, xs', _, hxs, rfl, rfl⟩ := h
    rw [List.cons_append, visitStmts, Pass.run_bind_ok hx, Pass.run_map, ih hxs]
    rcases (visitStmts r ys).run.run s' with ⟨_ | _, _⟩ <;> rfl

/-! ## Main theorem -/

/-- Two visits of a class that stands in no other, in whatever states the statements before have left, come to the same: the
same class or error, the same warnings, and the same state but for earlier warnings. So in a module whose statements
before the class can be visited, one and the same thing becomes of the class whatever stands before and after it. -/
theorem class_visited_alike (r : Resolver) (c : ClassDef) {s₁ s₂ : State} (h₁ : s₁.Closed) (h₂ : s₂.Closed) :
    ∃ (result : Except ArgOrderError Stmt) (left : State),
      (visitStmt r c.stmt).run.run s₁ = (result, left.afterWarnings s₁.skipped) ∧
      (visitStmt r c.stmt).run.run s₂ = (result, left.afterWarnings s₂.skipped) ∧
      ∀ s before after ys t, s.Closed → Pass.Ok (visitStmts r before) s ys t →
        (visitStmts r (before ++ c.stmt :: after)).run.run s =
          match result with
          | .ok x => Prod.map (Except.map (ys ++ x :: ·)) id ((visitStmts r after).run.run (left.afterWarnings t.skipped))
          | .error e => (.error e, left.afterWarnings t.skipped) := by
  obtain ⟨⟨result, left⟩, hf⟩ : ∃ out, (visitStmt r c.stmt).run.run .fresh = out := ⟨_, rfl⟩
  have hc : ∀ {s : State}, s.Closed → (visitStmt r c.stmt).run.run s = (result, left.afterWarnings s.skipped) := by
    intro s hs
    rw [hs.visit_class r c, hf]
  refine ⟨result, left, hc h₁, hc h₂, ?_⟩
  intro s before after ys t hs hb
  have ht := hc (hs.of_stmts hb)
  rw [visitStmts_append hb, visitStmts]
  cases result with
  | error e =>
    rw [Pass.run_bind_error ht]
    rfl
  | ok x =>
    rw [Pass.run_bind_ok ht, Pass.run_map]
    rcases (visitStmts r after).run.run (left.afterWarnings t.skipped) with ⟨_ | zs, t'⟩ <;> rfl

/-- After a class that was skipped, `endsUntyped` is put back with the same warning as in a module of its own. -/
theorem ends_untyped_visited_alike :
    let s : State := ⟨true, some "C", false, ["y"], false, ["C"]⟩
    let left : State := ⟨true, some "B", false, [], false, ["B"]⟩
    State.fresh.Closed ∧ s.Closed ∧
      (visitStmt resolveByName endsUntyped.stmt).run.run .fresh = (.ok endsUntyped.stmt, left) ∧
      (visitStmt resolveByName endsUntyped.stmt).run.run s = (.ok endsUntyped.stmt, left.afterWarnings ["C"]) := by
  intro s left
  have hfresh : State.fresh.Closed := ⟨rfl, rfl⟩
  have hs : s.Closed := ⟨rfl, rfl⟩
  have hrun : (visitStmt resolveByName endsUntyped.stmt).run.run .fresh = (.ok endsUntyped.stmt, left) := rfl
  obtain ⟨result, left', h, h', -⟩ := class_visited_alike resolveByName endsUntyped hfresh hs
  obtain ⟨rfl, hleft⟩ := Prod.mk.inj (h.symm.trans hrun)
  have hleft : left' = left := hleft
  rw [hleft] at h'
  exact ⟨hfresh, hs, hrun, h'⟩

end AttrsUpgrade
