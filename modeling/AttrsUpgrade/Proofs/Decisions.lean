import AttrsUpgrade.Proofs.Defaults
import AttrsUpgrade.Proofs.Enclosing
/-!
# What the pass decides

The pass comes to one small statement after the other and decides on each of them in the state that it has then.
`Node.decisions` lists the statements with these states, up to where the pass fails if it does. It tells all of a run: what
comes out of a run that succeeds are the decisions one by one (`Visit.decided`), and a run that fails does so at its last decision
or at a decorator (`Node.failed`).

In a session that does not begin inside of an annotated assignment, no decision on a plain assignment of a field call is made
without the type that the call gives (`plain_assignments_become_annotated`): a call without type would have raised the flag on
the way. This holds also after runs that failed and left the session inside of a class.
-/

namespace AttrsUpgrade

/-! ## Steps that fail -/

/-- The step fails in the state `s`. -/
def Pass.Fails {α : Type} (p : Pass α) (s : State) (e : ArgOrderError) : Prop := ∃ s', p.run.run s = (.error e, s')

namespace Pass
variable {α β : Type} {s s' : State} {e : ArgOrderError}

@[simp] theorem fails_pure {a : α} : ¬Fails (pure a) s e := by
  rintro ⟨_, ⟨⟩⟩

@[simp] theorem fails_get : ¬Fails (get : Pass State) s e := by
  rintro ⟨_, ⟨⟩⟩

@[simp] theorem fails_set {t : State} : ¬Fails (set t : Pass PUnit) s e := by
  rintro ⟨_, ⟨⟩⟩

@[simp] theorem fails_modify {f : State → State} : ¬Fails (modify f : Pass PUnit) s e := by
  rintro ⟨_, ⟨⟩⟩

@[simp] theorem fails_ofExcept {x : Except ArgOrderError α} : Fails (ofExcept x) s e ↔ x = .error e := by
  constructor
  · rintro ⟨_, ⟨⟩⟩; rfl
  · rintro rfl; exact ⟨s, rfl⟩

/-- Two steps fail if the first does, or if the second does after the first. -/
@[simp] theorem fails_bind {p : Pass α} {f : α → Pass β} :
    Fails (p >>= f) s e ↔ Fails p s e ∨ ∃ a s₁, Ok p s a s₁ ∧ Fails (f a) s₁ e := by
  constructor
  · rintro ⟨s', h⟩
    rcases hrun : p.run.run s with ⟨e' | a, s₁⟩
    · rw [run_bind_error hrun] at h
      cases h
      exact .inl ⟨_, hrun⟩
    · rw [run_bind_ok hrun] at h
      exact .inr ⟨a, s₁, hrun, s', h⟩
  · rintro (⟨s', h⟩ | ⟨a, s₁, hp, s', h⟩)
    · exact ⟨s', run_bind_error h⟩
    · exact ⟨s', (run_bind_ok hp).trans h⟩

theorem fails_bind_pure {p : Pass α} {f : α → β} : Fails (p >>= fun a => pure (f a)) s e ↔ Fails p s e := by
  rw [fails_bind]
  simp

@[simp] theorem fails_map {p : Pass α} {f : α → β} : Fails (f <$> p) s e ↔ Fails p s e := by
  rw [← bind_pure_comp]
  exact fails_bind_pure

/-- What comes after a step, if it succeeds. -/
def onward (p : Pass α) (s : State) (next : State → List β) : List β :=
  match p.run.run s with
  | (.ok _, s') => next s'
  | (.error _, _) => []

theorem Ok.onward {p : Pass α} {a : α} (h : Ok p s a s') (next : State → List β) : onward p s next = next s' := by
  rw [Pass.onward, h]

theorem Fails.onward {p : Pass α} (h : Fails p s e) (next : State → List β) : onward p s next = [] := by
  obtain ⟨s', h⟩ := h
  rw [Pass.onward, h]

theorem mem_onward {p : Pass α} {next : State → List β} {b : β} (h : b ∈ onward p s next) :
    ∃ a s', Ok p s a s' ∧ b ∈ next s' := by
  rcases hrun : p.run.run s with ⟨e | a, s'⟩
  · rw [Fails.onward ⟨s', hrun⟩] at h
    cases h
  · rw [Ok.onward hrun] at h
    exact ⟨a, s', hrun, h⟩

end Pass

/-! ## Decisions -/

section
variable (r : Resolver)

/-- The small statements that the pass comes to, each with the state in which it decides on it. -/
def itemDecisions (s : State) : List Item → List (State × Item)
  | [] => []
  | i :: is => (s.seeSmall r i.stmt, i) :: Pass.onward (visitItem r i) s fun s' => itemDecisions s' is

mutual

def Stmt.decisions (s : State) : Stmt → List (State × Item)
  | .line l => itemDecisions r s l.items
  | .compound cs => clauseDecisions s cs
  | .funcDef h b => Pass.onward (visitDecorators r h.decorators) s fun s₁ => b.decisions (s₁.seeParts r h.rest)
  | .classDef h b =>
    Pass.onward (visitDecorators r h.decorators) (s.enterClass ⟨h, b⟩) fun s₁ => b.decisions (s₁.seeParts r h.rest)

def clauseDecisions (s : State) : List Clause → List (State × Item)
  | [] => []
  | ⟨head, b⟩ :: cs =>
    let s₁ := s.seeParts r head.header.parts
    b.decisions s₁ ++ Pass.onward (visitNode r (.suite b)) s₁ fun s₂ => clauseDecisions s₂ cs

def Suite.decisions (s : State) : Suite → List (State × Item)
  | .inline _ is _ => itemDecisions r s is
  | .block _ _ xs _ => stmtDecisions s xs

def stmtDecisions (s : State) : List Stmt → List (State × Item)
  | [] => []
  | x :: xs => x.decisions s ++ Pass.onward (visitNode r (.stmt x)) s fun s₁ => stmtDecisions s₁ xs

end

def Node.decisions (s : State) : Node → List (State × Item)
  | .stmt x => x.decisions r s
  | .stmts xs => stmtDecisions r s xs
  | .clauses cs => clauseDecisions r s cs
  | .suite b => b.decisions r s

def Module.decisions (s : State) (m : Module) : List (State × Item) := stmtDecisions r s m.body

end

variable {r : Resolver} {s s' : State}

/-! ## Every decision has seen its statement -/

/-- The state in which the pass decides on a small statement has seen it, outside of annotated assignments. -/
def Decided (r : Resolver) (d : State × Item) : Prop :=
  ∃ s₀ : State, s₀.inAnnotated = false ∧ d.1 = s₀.seeSmall r d.2.stmt

theorem itemDecisions_decided (ha : s.inAnnotated = false) (is : List Item) : ∀ d ∈ itemDecisions r s is, Decided r d := by
  induction is generalizing s with
  | nil => simp [itemDecisions]
  | cons i is ih =>
    rw [itemDecisions, List.forall_mem_cons]
    refine ⟨⟨s, ha, rfl⟩, fun d hd => ?_⟩
    obtain ⟨i', s', hi, hd⟩ := Pass.mem_onward hd
    have ha' : s'.inAnnotated = false := by
      rw [item_state hi]
      exact (seeSmall_looked i.stmt s).inAnnotated ha
    exact ih ha' d hd

theorem Node.decisions_decided (n : Node) : ∀ {s : State}, s.inAnnotated = false → ∀ d ∈ n.decisions r s, Decided r d := by
  induction n using Node.induct with
  | line l => exact fun ha => itemDecisions_decided ha l.items
  | inline o is t => exact fun ha => itemDecisions_decided ha is
  | compound cs ih => exact ih
  | block o i xs f ih => exact ih
  | noClause | noStmt => simp [Node.decisions, clauseDecisions, stmtDecisions]
  | funcDef h b ih =>
    intro s ha d hd
    obtain ⟨ds, s₁, hds, hd⟩ := Pass.mem_onward hd
    exact ih ((header_looked hds h.rest).inAnnotated ha) d hd
  | classDef h b ih =>
    intro s ha d hd
    obtain ⟨ds, s₁, hds, hd⟩ := Pass.mem_onward hd
    exact ih ((header_looked hds h.rest).inAnnotated ha) d hd
  | clause head b cs ihb ihc =>
    intro s ha d hd
    have ha₁ := (seeParts_looked r head.header.parts s).inAnnotated ha
    rcases List.mem_append.1 hd with hd | hd
    · exact ihb ha₁ d hd
    · obtain ⟨b', s₂, hb, hd⟩ := Pass.mem_onward hd
      obtain ⟨vs, hv⟩ := visit_of_ok _ hb
      exact ihc (hv.moved.inAnnotated ha₁) d hd
  | next x xs ihx ihxs =>
    intro s ha d hd
    rcases List.mem_append.1 hd with hd | hd
    · exact ihx ha d hd
    · obtain ⟨x', s₁, hx, hd⟩ := Pass.mem_onward hd
      obtain ⟨vs, hv⟩ := visit_of_ok _ hx
      exact ihxs (hv.moved.inAnnotated ha) d hd

/-! ## Decisions tell all of a run -/

/-- What becomes of a small statement by the decision on it. -/
def Follows (r : Resolver) (d : State × Item) (i : Item) : Prop :=
  i = d.2 ∨ upgradeSmall? r d.1 d.2.stmt = .ok (some i.stmt)

theorem items_decided {is is' : List Item} (h : Pass.Ok (visitItems r is) s is' s') :
    (itemDecisions r s is).map Prod.snd = is ∧ List.Forall₂ (Follows r) (itemDecisions r s is) is' := by
  induction is generalizing s is' with
  | nil =>
    obtain ⟨rfl, -⟩ := Pass.ok_pure.1 h
    exact ⟨rfl, .nil⟩
  | cons i is ih =>
    simp only [visitItems, Pass.ok_bind, Pass.ok_pure] at h
    obtain ⟨i', s₁, hi, is', s₂, his, rfl, rfl⟩ := h
    obtain ⟨hitems, hfollows⟩ := ih his
    rw [itemDecisions, hi.onward, List.map_cons, hitems]
    refine ⟨rfl, .cons ?_ hfollows⟩
    exact item_state hi ▸ item_cases hi

/-- In a run that succeeds the pass decides on every small statement, in their order, and what comes out follows from that. -/
theorem Visit.decided {n n' : Node} {vs : List ClassVisit} (h : Visit r s n n' s' vs) : ∀ c c',
    (n.decisions r s).map Prod.snd = (n.enclosed c).map Prod.snd ∧
      List.Forall₂ (Follows r) (n.decisions r s) ((n'.enclosed c').map Prod.snd) := by
  induction h with
  | line hi | inline hi =>
    intro c c'
    simpa [Node.decisions, Stmt.decisions, Suite.decisions, Node.enclosed, Stmt.enclosed, Suite.enclosed,
      Function.comp_def] using items_decided hi
  | compound _ ih | block _ ih => exact ih
  | noClause | noStmt => exact fun _ _ => ⟨rfl, .nil⟩
  | @funcDef s s₁ s' h ds b b' vs hd _ ih =>
    intro c c'
    rw [Node.decisions, Stmt.decisions, hd.onward]
    exact ih c c'
  | @classDef s s₁ s₂ h ds b b' vs v hd _ hv ih =>
    intro c c'
    obtain ⟨hitems, hfollows⟩ := ih (some ⟨h, b⟩) (some ⟨{ h with decorators := ds }, b'⟩)
    rw [Node.decisions, Stmt.decisions, hd.onward]
    refine ⟨hitems, ?_⟩
    subst hv
    cases hu : s₂.untyped with
    | true =>
      -- put back: whatever was decided, the statements are the old ones
      rw [ClassVisit.result, if_pos hu]
      refine hitems ▸ List.forall₂_map_right_iff.2 (List.forall₂_same.2 fun d _ => .inl rfl)
    | false =>
      rw [ClassVisit.result, if_neg (by simp [hu])]
      exact hfollows
  | clause hb _ ihb ihc =>
    intro c c'
    obtain ⟨hitems, hfollows⟩ := ihb c c'
    obtain ⟨hitems', hfollows'⟩ := ihc c c'
    rw [Node.decisions, clauseDecisions, hb.ok.1.onward]
    simp only [Node.enclosed, clauseEnclosed, List.map_append]
    exact ⟨congrArg₂ (· ++ ·) hitems hitems', List.rel_append hfollows hfollows'⟩
  | next hx _ ihx ihxs =>
    intro c c'
    obtain ⟨hitems, hfollows⟩ := ihx c c'
    obtain ⟨hitems', hfollows'⟩ := ihxs c c'
    rw [Node.decisions, stmtDecisions, hx.ok.1.onward]
    simp only [Node.enclosed, stmtEnclosed, List.map_append]
    exact ⟨congrArg₂ (· ++ ·) hitems hitems', List.rel_append hfollows hfollows'⟩

/-- The last decision fails, or a decorator of the node cannot be replaced. -/
def FailsAt (r : Resolver) (ds : List (State × Item)) (ps : List Part) (e : ArgOrderError) : Prop :=
  (∃ d ∈ ds.getLast?, upgradeSmall? r d.1 d.2.stmt = .error e) ∨ ∃ b d, Part.decorator b d ∈ ps ∧ d.upgrade = .error e

theorem visitItem_fails {i : Item} {e : ArgOrderError} :
    Pass.Fails (visitItem r i) s e ↔ upgradeSmall? r (s.seeSmall r i.stmt) i.stmt = .error e := by
  simp only [visitItem, Pass.fails_bind, Pass.fails_modify, Pass.fails_get, Pass.fails_ofExcept, Pass.ok_modify, Pass.ok_get,
    Pass.ok_ofExcept, false_or]
  constructor
  · rintro ⟨_, _, rfl, _, _, ⟨rfl, rfl⟩, he | ⟨y, _, ⟨-, -⟩, hf⟩⟩
    · exact he
    · cases y <;> exact absurd hf Pass.fails_pure
  · intro he
    exact ⟨(), _, rfl, _, _, ⟨rfl, rfl⟩, .inl he⟩

theorem items_failed {is : List Item} {e : ArgOrderError} (h : Pass.Fails (visitItems r is) s e) :
    ∃ d ∈ (itemDecisions r s is).getLast?, upgradeSmall? r d.1 d.2.stmt = .error e := by
  induction is generalizing s with
  | nil => exact absurd h Pass.fails_pure
  | cons i is ih =>
    simp only [visitItems, Pass.fails_bind, Pass.fails_pure, and_false, exists_false, or_false] at h
    rw [itemDecisions]
    rcases h with hi | ⟨i', s₁, hi, his⟩
    · rw [hi.onward]
      exact ⟨_, rfl, visitItem_fails.1 hi⟩
    · rw [hi.onward]
      obtain ⟨d, hd, he⟩ := ih his
      exact ⟨d, by rw [List.getLast?_cons, hd]; rfl, he⟩

theorem see_fails {ps : List Part} {e : ArgOrderError} : ¬Pass.Fails (see r ps) s e := Pass.fails_modify

theorem decorators_failed {ds : List Decorator} {e : ArgOrderError} (h : Pass.Fails (visitDecorators r ds) s e) :
    ∃ d ∈ ds, d.upgrade = .error e := by
  induction ds generalizing s with
  | nil => exact absurd h Pass.fails_pure
  | cons d ds ih =>
    simp only [visitDecorators, Pass.fails_bind, Pass.fails_pure, and_false, exists_false, or_false] at h
    rcases h with hd | ⟨d', s₁, -, hds⟩
    · simp only [visitDecorator, Pass.fails_bind, see_fails, Pass.fails_get, false_or] at hd
      obtain ⟨_, _, -, t, _, -, hd⟩ := hd
      split at hd
      · exact ⟨d, List.mem_cons_self, Pass.fails_ofExcept.1 hd⟩
      · exact absurd hd Pass.fails_pure
    · obtain ⟨d'', hmem, he⟩ := ih hds
      exact ⟨d'', List.mem_cons_of_mem _ hmem, he⟩

namespace FailsAt
variable {ds ds' : List (State × Item)} {ps ps' : List Part} {e : ArgOrderError}

theorem mono (h : FailsAt r ds ps e) (hp : ps ⊆ ps') : FailsAt r ds ps' e :=
  h.imp_right fun ⟨b, d, hd, he⟩ => ⟨b, d, hp hd, he⟩

theorem append_left (h : FailsAt r ds' ps e) (ds : List (State × Item)) : FailsAt r (ds ++ ds') ps e := by
  refine h.imp_left fun ⟨d, hd, he⟩ => ⟨d, ?_, he⟩
  rw [List.getLast?_append, hd]
  rfl

theorem of_decorators {old : List Decorator} (h : ∃ d ∈ old, d.upgrade = .error e) (b : Bool)
    (hp : old.map (Part.decorator b) ⊆ ps) : FailsAt r ds ps e := by
  obtain ⟨d, hd, he⟩ := h
  exact .inr ⟨b, d, hp (List.mem_map_of_mem hd), he⟩

end FailsAt

/-- A run that fails does so at its last decision or at a decorator. -/
theorem Node.failed (n : Node) : ∀ {s : State} {e : ArgOrderError}, Pass.Fails (visitNode r n) s e →
    FailsAt r (n.decisions r s) n.parts e := by
  induction n using Node.induct with
  | line l => exact fun h => .inl (items_failed (Pass.fails_bind_pure.1 (Pass.fails_map.1 h)))
  | inline o is t => exact fun h => .inl (items_failed (Pass.fails_bind_pure.1 (Pass.fails_map.1 h)))
  | compound cs ih => exact fun h => ih (Pass.fails_map.2 (Pass.fails_bind_pure.1 (Pass.fails_map.1 h)))
  | block o i xs f ih => exact fun h => ih (Pass.fails_map.2 (Pass.fails_bind_pure.1 (Pass.fails_map.1 h)))
  | noClause | noStmt => exact fun h => absurd (Pass.fails_map.1 h) Pass.fails_pure
  | funcDef h b ih =>
    intro s e hf
    rcases Pass.fails_bind.1 (Pass.fails_map.1 hf) with hds | ⟨ds, s₁, hds, hf⟩
    · exact .of_decorators (decorators_failed hds) true (by simp [Node.parts, Stmt.parts, FuncHead.parts])
    · obtain ⟨_, _, hsee, hb⟩ := (Pass.fails_bind.1 hf).resolve_left see_fails
      cases see_ok.1 hsee
      rw [Node.decisions, Stmt.decisions, hds.onward]
      exact (ih (Pass.fails_map.2 (Pass.fails_bind_pure.1 hb))).mono (List.subset_append_right _ _)
  | classDef h b ih =>
    intro s e hf
    obtain ⟨_, _, hget, hf⟩ := (Pass.fails_bind.1 (Pass.fails_map.1 hf)).resolve_left Pass.fails_get
    cases (Pass.ok_get.1 hget).2
    obtain ⟨_, _, henter, hf⟩ := (Pass.fails_bind.1 hf).resolve_left Pass.fails_modify
    cases Pass.ok_modify.1 henter
    rcases Pass.fails_bind.1 hf with hds | ⟨ds, s₁, hds, hf⟩
    · exact .of_decorators (decorators_failed hds) false (by simp [Node.parts, Stmt.parts, ClassHead.parts])
    · obtain ⟨_, _, hsee, hb⟩ := (Pass.fails_bind.1 hf).resolve_left see_fails
      cases see_ok.1 hsee
      have hds : Pass.Ok (visitDecorators r h.decorators) (s.enterClass ⟨h, b⟩) ds s₁ := hds
      rw [Node.decisions, Stmt.decisions, hds.onward]
      rcases Pass.fails_bind.1 hb with hb | ⟨_, _, -, hrest⟩
      · exact (ih (Pass.fails_map.2 hb)).mono (List.subset_append_right _ _)
      · -- after the body nothing can fail
        simp at hrest
  | clause head b cs ihb ihc =>
    intro s e h
    rw [Node.decisions, clauseDecisions]
    rcases Pass.fails_bind.1 (Pass.fails_map.1 h) with hc | ⟨c, s₁, hc, hcs⟩
    · obtain ⟨_, _, hsee, hb⟩ := (Pass.fails_bind.1 hc).resolve_left see_fails
      cases see_ok.1 hsee
      have hb : Pass.Fails (visitNode r (.suite b)) _ e := Pass.fails_map.2 (Pass.fails_bind_pure.1 hb)
      rw [hb.onward, List.append_nil]
      exact (ihb hb).mono (by simp [Node.parts, clauseParts, Clause.parts])
    · obtain ⟨_, _, hsee, hb⟩ := Pass.ok_bind.1 hc
      cases see_ok.1 hsee
      obtain ⟨b', _, hb, hc⟩ := Pass.ok_bind.1 hb
      cases (Pass.ok_pure.1 hc).2
      have hb : Pass.Ok (visitNode r (.suite b)) _ (.suite b') s₁ := Pass.ok_map.2 ⟨b', hb, rfl⟩
      rw [hb.onward]
      exact ((ihc (Pass.fails_map.2 (Pass.fails_bind_pure.1 hcs))).append_left _).mono (List.subset_append_right _ _)
  | next x xs ihx ihxs =>
    intro s e h
    rw [Node.decisions, stmtDecisions]
    rcases Pass.fails_bind.1 (Pass.fails_map.1 h) with hx | ⟨x', s₁, hx, hxs⟩
    · have hx : Pass.Fails (visitNode r (.stmt x)) s e := Pass.fails_map.2 hx
      rw [hx.onward, List.append_nil]
      exact (ihx hx).mono (List.subset_append_left _ _)
    · have hx : Pass.Ok (visitNode r (.stmt x)) s (.stmt x') s₁ := Pass.ok_map.2 ⟨x', hx, rfl⟩
      rw [hx.onward]
      exact ((ihxs (Pass.fails_map.2 (Pass.fails_bind_pure.1 hxs))).append_left _).mono (List.subset_append_right _ _)

/-! ## Plain assignments -/

/-- The decision on a plain assignment is to declare its first target with an annotation: the last type that the call
gives. -/
def Annotates (r : Resolver) (s : State) (targets : List Target) (value : Expr) : Prop :=
  ∃ t ∈ targets.head?, ∃ c ∈ r.fieldCall? value, ∃ e ∈ (valuesOf "type" c.args).getLast?,
    upgradeSmall? r s (.assign targets value) =
      ((FieldArgs.parse c.args).annotated t.target (.ofExpr e) (s.forces t.target) r.fieldSource).map some ∧
    ∀ y, upgradeSmall? r s (.assign targets value) = .ok (some y) → ∃ v, y = .annAssign t.target (.ofExpr e) v

theorem Decided.annotates {d : State × Item} {targets : List Target} {value : Expr} (h : Decided r d)
    (hstmt : d.2.stmt = .assign targets value) (hup : upgradeSmall? r d.1 d.2.stmt ≠ .ok none) :
    Annotates r d.1 targets value := by
  obtain ⟨s₀, ha, hd⟩ := h
  rw [hstmt] at hd hup
  cases targets with
  | nil => exact absurd rfl hup
  | cons t ts =>
    -- it is decided on inside of a class with the flag down, or it stays
    cases hopen : d.1.inClass && !d.1.untyped with
    | false => exact absurd (by simp [upgradeSmall?, hopen]) hup
    | true =>
      cases hc : r.fieldCall? value with
      | none => exact absurd (by simp [upgradeSmall?, hc]) hup
      | some c =>
        simp only [Bool.and_eq_true, Bool.not_eq_eq_eq_not, Bool.not_true] at hopen
        have hlooked := (seeSmall_looked (r := r) (.assign (t :: ts) value) s₀).moved
        rw [← hd] at hlooked
        have hseen := hlooked.seen (hlooked.inClass.symm.trans hopen.1) ha
        have huntyped : (s₀.seen.after r (Small.assign (t :: ts) value).events).untyped = false := hseen ▸ hopen.2
        obtain ⟨e, he⟩ := typeArg_of_replaced hc huntyped
        have hdecision : upgradeSmall? r d.1 (.assign (t :: ts) value) =
            ((FieldArgs.parse c.args).annotated t.target (.ofExpr e) (d.1.forces t.target) r.fieldSource).map some := by
          simp [upgradeSmall?, hopen, hc, he, FieldArgs.parse_withoutType, FieldArgs.build]
        refine ⟨t, rfl, c, hc, e, he, hdecision, fun y hy => ?_⟩
        rw [hdecision] at hy
        have hbuilt : (FieldArgs.parse c.args).build t.target (some (.ofExpr e)) (d.1.forces t.target) r.fieldSource = .ok y :=
          except_map_some hy
        exact ⟨_, FieldArgs.build_given hbuilt⟩

/-! ## Sessions -/

/-- The session after modules were transformed one after the other; each comes with whether the imports asked for so far are
kept for it. -/
def Session.after (s : Session) (steps : List (Bool × Module)) : Session :=
  steps.foldl (fun s x => ((s.begin x.1).transformModule x.2).session) s

theorem Session.transformModule_inAnnotated {s : Session} (m : Module) (h : s.state.inAnnotated = false) :
    (s.transformModule m).session.state.inAnnotated = false := by
  unfold Session.transformModule
  cases m.scan with
  | error e => exact h
  | ok table =>
    have hkeeps : Pass.Keeps (visitModule (table.resolver m) m) := .bind (Node.keeps (.stmts m.body)) fun _ => .pure _
    have hrun := hkeeps s.state h
    simp only
    split
    · next he =>
      rw [he] at hrun
      rw [(Session.finish_session _ _).1]
      exact hrun
    · next he =>
      rw [he] at hrun
      exact hrun

theorem Session.after_inAnnotated {s : Session} (h : s.state.inAnnotated = false) (steps : List (Bool × Module)) :
    (s.after steps).state.inAnnotated = false := by
  induction steps generalizing s with
  | nil => exact h
  | cons x steps ih => exact ih (Session.transformModule_inAnnotated x.2 h)

/-- The decisions of a run of the pass tell all of it. -/
structure Accounted (r : Resolver) (s : State) (m : Module) : Prop where
  ok : ∀ m' s', (visitModule r m).run.run s = (.ok m', s') →
    (m.decisions r s).map Prod.snd = m.enclosed.map Prod.snd ∧
      List.Forall₂ (Follows r) (m.decisions r s) (m'.enclosed.map Prod.snd)
  failed : ∀ e s', (visitModule r m).run.run s = (.error e, s') → FailsAt r (m.decisions r s) m.parts e

theorem Module.accounted (r : Resolver) (s : State) (m : Module) : Accounted r s m where
  ok m' s' h := by
    obtain ⟨vs, hv, -⟩ := visit_of_module h
    exact hv.decided none none
  failed e s' h := by
    have hfails : Pass.Fails (visitNode r (.stmts m.body)) s e := Pass.fails_map.2 (Pass.fails_bind_pure.1 ⟨s', h⟩)
    exact Node.failed (.stmts m.body) hfails

/-! ## Main theorem -/

/-- In a session that does not begin inside of an annotated assignment, whatever modules it has come to before and whether or
not it got through them, and whatever the names of the next module mean: where the pass decides on a plain assignment and does
not leave it, it declares the first target with the last type of the call as annotation. The decisions that this is said of
make up the whole run. -/
theorem plain_assignments_become_annotated {start : Session} (hstart : start.state.inAnnotated = false)
    (before : List (Bool × Module)) (keep : Bool) (r : Resolver) (m : Module) :
    let s := ((start.after before).begin keep).state
    Accounted r s m ∧ ∀ d ∈ m.decisions r s, ∀ targets value, d.2.stmt = .assign targets value →
      upgradeSmall? r d.1 d.2.stmt ≠ .ok none → Annotates r d.1 targets value := by
  intro s
  refine ⟨m.accounted r s, fun d hd targets value hstmt hup => ?_⟩
  have hs : s.inAnnotated = false := Session.after_inAnnotated hstart before
  exact (Node.decisions_decided (.stmts m.body) hs d hd).annotates hstmt hup

/-- A field call that cannot be rebuilt: its default would come before an argument without keyword. -/
def refusedText : String := "import attr\nclass A:\n x = attr.ib(1, type=int, default=2)\n"

/-- A field outside of classes, with two targets and two types. -/
def looseText : String := "import attr\nx = y = attr.ib(type=int, type=str)\n"

theorem Small.eq_assign {x : Small} (h : x.isAssignment = true) (hplain : x.isAnnAssign = false) :
    ∃ targets value, x = .assign targets value := by
  cases x with
  | assign targets value => exact ⟨targets, value, rfl⟩
  | annAssign target hint value => cases hplain
  | _ => cases h

/-- A decision and what comes of it, as texts. -/
def describeDecision (r : Resolver) (d : State × Item) : Bool × String × Option (Option String) :=
  (d.2.stmt.isAnnAssign, d.2.stmt.text, (upgradeSmall? r d.1 d.2.stmt).toOption.map fun y => y.map Small.text)

/-- After the first text the session is still inside of the class, so that the field of the second one is decided on. -/
theorem loose_text_annotated_after_refusal : ∃ m₁ m table, Module.parse? refusedText = some m₁ ∧
    Module.parse? looseText = some m ∧ m.scan = .ok table ∧
    let r := table.resolver m
    let s := Session.fresh.after [(false, m₁)]
    s.state.inClass = true ∧ ∃ d ∈ m.decisions r (s.begin false).state, ∃ targets value y,
      d.2.stmt = .assign targets value ∧ d.2.stmt.text = "x = y = attr.ib(type=int, type=str)" ∧
      upgradeSmall? r d.1 d.2.stmt = .ok (some y) ∧ y.text = "x: str" ∧ Annotates r d.1 targets value := by
  have heval : ((Module.parse? refusedText).bind fun m₁ => (Module.parse? looseText).bind fun m =>
      m.scan.toOption.map fun table =>
        let s := Session.fresh.after [(false, m₁)]
        (s.state.inClass, (m.decisions (table.resolver m) (s.begin false).state).map (describeDecision (table.resolver m)))) =
      some (true, [(false, "import attr", some none),
        (false, "x = y = attr.ib(type=int, type=str)", some (some "x: str"))]) := by
    decide +kernel
  obtain ⟨m₁, hp₁, heval⟩ := Option.bind_eq_some_iff.1 heval
  obtain ⟨m, hp, heval⟩ := Option.bind_eq_some_iff.1 heval
  cases hs : m.scan with
  | error e => simp [hs, Except.toOption] at heval
  | ok table =>
    rw [hs] at heval
    obtain ⟨hclass, hdecisions⟩ := Prod.mk.inj (Option.some.inj heval)
    refine ⟨m₁, m, table, hp₁, hp, hs, hclass, ?_⟩
    obtain ⟨d, hd, hdescribe⟩ := List.mem_map.1 (hdecisions ▸ List.mem_cons_of_mem _ List.mem_cons_self)
    obtain ⟨hplain, hrest⟩ := Prod.mk.inj hdescribe
    obtain ⟨htext, hup⟩ := Prod.mk.inj hrest
    cases hy : upgradeSmall? (table.resolver m) d.1 d.2.stmt with
    | error e => simp [hy, Except.toOption] at hup
    | ok y? =>
      rw [hy] at hup
      obtain ⟨y, rfl, hytext⟩ := Option.map_eq_some_iff.1 (Option.some.inj hup)
      obtain ⟨targets, value, hstmt⟩ := Small.eq_assign (upgradeSmall?_isAssignment hy).1 hplain
      refine ⟨d, hd, targets, value, y, hstmt, htext, hy, hytext, ?_⟩
      have hfresh : Session.fresh.state.inAnnotated = false := rfl
      have hmain := plain_assignments_become_annotated hfresh [(false, m₁)] false (table.resolver m) m
      exact hmain.2 d hd targets value hstmt (by simp [hy])

end AttrsUpgrade
