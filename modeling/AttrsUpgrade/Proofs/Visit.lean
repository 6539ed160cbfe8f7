import AttrsUpgrade.Proofs.Nodes
/-!
# What a visit does

`Visit r s n n' s' vs` says that the pass, come to the node `n` in the state `s`, gets through it: `n'` takes its place, the
state is then `s'`, and `vs` tells of every class in `n` how it was visited. `visit_of_ok` reads a run of the pass that does
not fail as such a visit, so that everything about runs is proved by induction over visits and no other proof looks at the
monad.
-/

namespace AttrsUpgrade

/-! ## Steps of the pass -/

/-- The step succeeds in the state `s` with the result `a` and leaves the state `s'`. -/
def Pass.Ok {α : Type} (p : Pass α) (s : State) (a : α) (s' : State) : Prop := p.run.run s = (.ok a, s')

namespace Pass
variable {α β : Type} {s s' : State}

@[simp] theorem ok_pure {a b : α} : Ok (pure a) s b s' ↔ b = a ∧ s' = s := by
  simp only [Ok, ExceptT.run_pure, StateT.run_pure]
  constructor
  · rintro ⟨⟩; exact ⟨rfl, rfl⟩
  · rintro ⟨rfl, rfl⟩; rfl

@[simp] theorem ok_bind {p : Pass α} {f : α → Pass β} {b : β} :
    Ok (p >>= f) s b s' ↔ ∃ a s₁, Ok p s a s₁ ∧ Ok (f a) s₁ b s' := by
  simp only [Ok, ExceptT.run_bind, StateT.run_bind]
  constructor
  · intro h
    rcases e : p.run.run s with ⟨_ | a, s₁⟩
    · rw [e] at h
      cases h
    · rw [e] at h
      exact ⟨a, s₁, rfl, h⟩
  · rintro ⟨a, s₁, hp, hf⟩
    rw [hp]
    exact hf

@[simp] theorem ok_map {p : Pass α} {f : α → β} {b : β} :
    Ok (f <$> p) s b s' ↔ ∃ a, Ok p s a s' ∧ b = f a := by
  rw [← bind_pure_comp]
  simp only [ok_bind, ok_pure]
  constructor
  · rintro ⟨a, s₁, hp, rfl, rfl⟩
    exact ⟨a, hp, rfl⟩
  · rintro ⟨a, hp, rfl⟩
    exact ⟨a, s', hp, rfl, rfl⟩

@[simp] theorem ok_get {a : State} : Ok get s a s' ↔ a = s ∧ s' = s := by
  constructor
  · rintro ⟨⟩; exact ⟨rfl, rfl⟩
  · rintro ⟨rfl, rfl⟩; rfl

@[simp] theorem ok_set {t : State} {u : PUnit} : Ok (set t) s u s' ↔ s' = t := by
  constructor
  · rintro ⟨⟩; rfl
  · rintro rfl; rfl

@[simp] theorem ok_modify {f : State → State} {u : PUnit} : Ok (modify f) s u s' ↔ s' = f s := by
  constructor
  · rintro ⟨⟩; rfl
  · rintro rfl; rfl

@[simp] theorem ok_ofExcept {x : Except ArgOrderError α} {a : α} : Ok (ofExcept x) s a s' ↔ x = .ok a ∧ s' = s := by
  constructor
  · rintro ⟨⟩; exact ⟨rfl, rfl⟩
  · rintro ⟨rfl, rfl⟩; rfl

end Pass

/-! ## Visits of classes -/

/-- How a class was visited. -/
structure ClassVisit where
  cls : ClassDef
  /-- The state in which the pass comes to the class. -/
  before : State
  /-- The class with all that was changed inside it. -/
  updated : ClassDef
  /-- The state at the end of its body. -/
  inside : State

namespace ClassVisit

/-- What takes the place of the class. -/
def result (v : ClassVisit) : ClassDef := if v.inside.untyped then v.cls else v.updated

/-- The state after the class was left. -/
def after (v : ClassVisit) : State := v.inside.leave v.before.inClass

/-- The names that leaving the class warns about. -/
def warned (v : ClassVisit) : List String := if v.inside.untyped then v.inside.className.toList else []

end ClassVisit

/-- The state on entering a class. -/
def State.enterClass (c : ClassDef) (s : State) : State := s.enter c.name c.decorated

/-- The state after parts outside of statements have been seen. -/
def State.seeParts (r : Resolver) (ps : List Part) (s : State) : State := s.see r (ps.flatMap Part.calls)

section
variable (r : Resolver)

inductive Visit : State → Node → Node → State → List ClassVisit → Prop
  | line {s s' l is} : Pass.Ok (visitItems r l.items) s is s' →
      Visit s (.stmt (.line l)) (.stmt (.line { l with items := is })) s' []
  | compound {s s' cs cs' vs} : Visit s (.clauses cs) (.clauses cs') s' vs →
      Visit s (.stmt (.compound cs)) (.stmt (.compound cs')) s' vs
  | funcDef {s s₁ s' h ds b b' vs} : Pass.Ok (visitDecorators r h.decorators) s ds s₁ →
      Visit (s₁.seeParts r h.rest) (.suite b) (.suite b') s' vs →
      Visit s (.stmt (.funcDef h b)) (.stmt (.funcDef { h with decorators := ds } b')) s' vs
  | classDef {s s₁ s₂ h ds b b' vs v} : Pass.Ok (visitDecorators r h.decorators) (s.enterClass ⟨h, b⟩) ds s₁ →
      Visit (s₁.seeParts r h.rest) (.suite b) (.suite b') s₂ vs →
      v = ⟨⟨h, b⟩, s, ⟨{ h with decorators := ds }, b'⟩, s₂⟩ →
      Visit s (.stmt (.classDef h b)) (.stmt v.result.stmt) v.after (vs ++ [v])
  | inline {s s' o is is' t} : Pass.Ok (visitItems r is) s is' s' →
      Visit s (.suite (.inline o is t)) (.suite (.inline o is' t)) s' []
  | block {s s' o i xs xs' f vs} : Visit s (.stmts xs) (.stmts xs') s' vs →
      Visit s (.suite (.block o i xs f)) (.suite (.block o i xs' f)) s' vs
  | noClause {s} : Visit s (.clauses []) (.clauses []) s []
  | clause {s s₁ s' head b b' cs cs' vs vs'} : Visit (s.seeParts r head.header.parts) (.suite b) (.suite b') s₁ vs →
      Visit s₁ (.clauses cs) (.clauses cs') s' vs' →
      Visit s (.clauses (⟨head, b⟩ :: cs)) (.clauses (⟨head, b'⟩ :: cs')) s' (vs ++ vs')
  | noStmt {s} : Visit s (.stmts []) (.stmts []) s []
  | next {s s₁ s' x x' xs xs' vs vs'} : Visit s (.stmt x) (.stmt x') s₁ vs → Visit s₁ (.stmts xs) (.stmts xs') s' vs' →
      Visit s (.stmts (x :: xs)) (.stmts (x' :: xs')) s' (vs ++ vs')

/-- The pass through a class up to the end of its body. -/
def visitInside (c : ClassDef) : Pass ClassDef := do
  modify (State.enterClass c)
  let decorators ← visitDecorators r c.head.decorators
  see r c.head.rest
  return ⟨{ c.head with decorators }, ← visitSuite r c.body⟩

/-- The pass on a node. -/
def visitNode : Node → Pass Node
  | .stmt x => Node.stmt <$> visitStmt r x
  | .stmts xs => Node.stmts <$> visitStmts r xs
  | .clauses cs => Node.clauses <$> visitClauses r cs
  | .suite b => Node.suite <$> visitSuite r b

end

variable {r : Resolver}

theorem see_ok {ps : List Part} {s s' : State} {u : Unit} : Pass.Ok (see r ps) s u s' ↔ s' = s.seeParts r ps :=
  Pass.ok_modify

/-! ## The pass, node by node -/

theorem line_ok {l : Line} {s s' : State} {n' : Node} : Pass.Ok (visitNode r (.stmt (.line l))) s n' s' ↔
    ∃ is, Pass.Ok (visitItems r l.items) s is s' ∧ n' = .stmt (.line { l with items := is }) := by
  simp only [visitNode, visitStmt, Pass.ok_map, Pass.ok_bind, Pass.ok_pure]
  constructor
  · rintro ⟨x, ⟨is, s₁, h, rfl, rfl⟩, rfl⟩; exact ⟨is, h, rfl⟩
  · rintro ⟨is, h, rfl⟩; exact ⟨_, ⟨is, s', h, rfl, rfl⟩, rfl⟩

theorem compound_ok {cs : List Clause} {s s' : State} {n' : Node} :
    Pass.Ok (visitNode r (.stmt (.compound cs))) s n' s' ↔
      ∃ cs', Pass.Ok (visitNode r (.clauses cs)) s (.clauses cs') s' ∧ n' = .stmt (.compound cs') := by
  simp only [visitNode, visitStmt, Pass.ok_map, Pass.ok_bind, Pass.ok_pure]
  constructor
  · rintro ⟨x, ⟨cs', s₁, h, rfl, rfl⟩, rfl⟩; exact ⟨cs', ⟨cs', h, rfl⟩, rfl⟩
  · rintro ⟨cs', ⟨_, h, ⟨⟩⟩, rfl⟩; exact ⟨_, ⟨cs', s', h, rfl, rfl⟩, rfl⟩

theorem funcDef_ok {h : FuncHead} {b : Suite} {s s' : State} {n' : Node} :
    Pass.Ok (visitNode r (.stmt (.funcDef h b))) s n' s' ↔
      ∃ ds s₁ b', Pass.Ok (visitDecorators r h.decorators) s ds s₁ ∧
        Pass.Ok (visitNode r (.suite b)) (s₁.seeParts r h.rest) (.suite b') s' ∧
        n' = .stmt (.funcDef { h with decorators := ds } b') := by
  simp only [visitNode, visitStmt, Pass.ok_map, Pass.ok_bind, Pass.ok_pure, see_ok]
  constructor
  · rintro ⟨x, ⟨ds, s₁, hd, u, s₂, rfl, b', s₃, hb, rfl, rfl⟩, rfl⟩
    exact ⟨ds, s₁, b', hd, ⟨b', hb, rfl⟩, rfl⟩
  · rintro ⟨ds, s₁, b', hd, ⟨_, hb, ⟨⟩⟩, rfl⟩
    exact ⟨_, ⟨ds, s₁, hd, (), _, rfl, b', s', hb, rfl, rfl⟩, rfl⟩

theorem inside_ok {c c' : ClassDef} {s s' : State} : Pass.Ok (visitInside r c) s c' s' ↔
    ∃ ds s₁ b', Pass.Ok (visitDecorators r c.head.decorators) (s.enterClass c) ds s₁ ∧
      Pass.Ok (visitNode r (.suite c.body)) (s₁.seeParts r c.head.rest) (.suite b') s' ∧
      c' = ⟨{ c.head with decorators := ds }, b'⟩ := by
  simp only [visitInside, visitNode, Pass.ok_map, Pass.ok_bind, Pass.ok_pure, Pass.ok_modify, see_ok]
  constructor
  · rintro ⟨u, s₀, rfl, ds, s₁, hd, u', s₂, rfl, b', s₃, hb, rfl, rfl⟩
    exact ⟨ds, s₁, b', hd, ⟨b', hb, rfl⟩, rfl⟩
  · rintro ⟨ds, s₁, b', hd, ⟨_, hb, ⟨⟩⟩, rfl⟩
    exact ⟨(), _, rfl, ds, s₁, hd, (), _, rfl, b', s', hb, rfl, rfl⟩

theorem classDef_ok {h : ClassHead} {b : Suite} {s s' : State} {n' : Node} :
    Pass.Ok (visitNode r (.stmt (.classDef h b))) s n' s' ↔
      ∃ c t, Pass.Ok (visitInside r ⟨h, b⟩) s c t ∧ n' = .stmt (ClassVisit.mk ⟨h, b⟩ s c t).result.stmt ∧
        s' = (ClassVisit.mk ⟨h, b⟩ s c t).after := by
  have hs : ∀ (c : ClassDef) (t : State), (if t.untyped then Stmt.classDef h b else .classDef c.head c.body) =
      (ClassVisit.mk ⟨h, b⟩ s c t).result.stmt := by
    intro c t
    cases hu : t.untyped <;> simp [ClassVisit.result, ClassDef.stmt, hu]
  simp only [visitNode, visitStmt, Pass.ok_map, Pass.ok_bind, Pass.ok_pure, Pass.ok_get, Pass.ok_modify, Pass.ok_set, see_ok]
  constructor
  · rintro ⟨x, ⟨s₀, t, ⟨rfl, rfl⟩, u, s₁, rfl, ds, s₂, hd, u', s₃, rfl, b', s₄, hb, s₅, t', ⟨rfl, rfl⟩, u'', s₆, rfl, rfl,
      rfl⟩, rfl⟩
    have hi : Pass.Ok (visitInside r ⟨h, b⟩) t ⟨{ h with decorators := ds }, b'⟩ t' :=
      inside_ok.2 ⟨ds, s₂, b', hd, Pass.ok_map.2 ⟨b', hb, rfl⟩, rfl⟩
    exact ⟨_, t', hi, by rw [← hs], rfl⟩
  · rintro ⟨c, t, hi, rfl, rfl⟩
    obtain ⟨ds, s₁, b', hd, hb, rfl⟩ := inside_ok.1 hi
    obtain ⟨_, hb, ⟨⟩⟩ := Pass.ok_map.1 hb
    refine ⟨_, ⟨_, _, ⟨rfl, rfl⟩, (), _, rfl, ds, s₁, hd, (), _, rfl, b', t, hb, _, _, ⟨rfl, rfl⟩, (), _, rfl, ?_, rfl⟩, rfl⟩
    exact (hs _ t).symm

theorem inline_ok {o is t} {s s' : State} {n' : Node} : Pass.Ok (visitNode r (.suite (.inline o is t))) s n' s' ↔
    ∃ is', Pass.Ok (visitItems r is) s is' s' ∧ n' = .suite (.inline o is' t) := by
  simp only [visitNode, visitSuite, Pass.ok_map, Pass.ok_bind, Pass.ok_pure]
  constructor
  · rintro ⟨x, ⟨is', s₁, h, rfl, rfl⟩, rfl⟩; exact ⟨is', h, rfl⟩
  · rintro ⟨is', h, rfl⟩; exact ⟨_, ⟨is', s', h, rfl, rfl⟩, rfl⟩

theorem block_ok {o i xs f} {s s' : State} {n' : Node} : Pass.Ok (visitNode r (.suite (.block o i xs f))) s n' s' ↔
    ∃ xs', Pass.Ok (visitNode r (.stmts xs)) s (.stmts xs') s' ∧ n' = .suite (.block o i xs' f) := by
  simp only [visitNode, visitSuite, Pass.ok_map, Pass.ok_bind, Pass.ok_pure]
  constructor
  · rintro ⟨x, ⟨xs', s₁, h, rfl, rfl⟩, rfl⟩; exact ⟨xs', ⟨xs', h, rfl⟩, rfl⟩
  · rintro ⟨xs', ⟨_, h, ⟨⟩⟩, rfl⟩; exact ⟨_, ⟨xs', s', h, rfl, rfl⟩, rfl⟩

theorem noClause_ok {s s' : State} {n' : Node} :
    Pass.Ok (visitNode r (.clauses [])) s n' s' ↔ n' = .clauses [] ∧ s' = s := by
  simp only [visitNode, visitClauses, Pass.ok_map, Pass.ok_pure]
  constructor
  · rintro ⟨x, ⟨rfl, rfl⟩, rfl⟩; exact ⟨rfl, rfl⟩
  · rintro ⟨rfl, rfl⟩; exact ⟨_, ⟨rfl, rfl⟩, rfl⟩

theorem clause_ok {head b cs} {s s' : State} {n' : Node} :
    Pass.Ok (visitNode r (.clauses (⟨head, b⟩ :: cs))) s n' s' ↔
      ∃ b' s₁ cs', Pass.Ok (visitNode r (.suite b)) (s.seeParts r head.header.parts) (.suite b') s₁ ∧
        Pass.Ok (visitNode r (.clauses cs)) s₁ (.clauses cs') s' ∧ n' = .clauses (⟨head, b'⟩ :: cs') := by
  simp only [visitNode, visitClauses, visitClause, Pass.ok_map, Pass.ok_bind, Pass.ok_pure, see_ok]
  constructor
  · rintro ⟨x, ⟨c, s₁, ⟨u, s₂, rfl, b', s₃, hb, rfl, rfl⟩, cs', s₄, hc, rfl, rfl⟩, rfl⟩
    exact ⟨b', s₁, cs', ⟨b', hb, rfl⟩, ⟨cs', hc, rfl⟩, rfl⟩
  · rintro ⟨b', s₁, cs', ⟨_, hb, ⟨⟩⟩, ⟨_, hc, ⟨⟩⟩, rfl⟩
    exact ⟨_, ⟨_, s₁, ⟨(), _, rfl, b', s₁, hb, rfl, rfl⟩, cs', s', hc, rfl, rfl⟩, rfl⟩

theorem noStmt_ok {s s' : State} {n' : Node} :
    Pass.Ok (visitNode r (.stmts [])) s n' s' ↔ n' = .stmts [] ∧ s' = s := by
  simp only [visitNode, visitStmts, Pass.ok_map, Pass.ok_pure]
  constructor
  · rintro ⟨x, ⟨rfl, rfl⟩, rfl⟩; exact ⟨rfl, rfl⟩
  · rintro ⟨rfl, rfl⟩; exact ⟨_, ⟨rfl, rfl⟩, rfl⟩

theorem next_ok {x xs} {s s' : State} {n' : Node} : Pass.Ok (visitNode r (.stmts (x :: xs))) s n' s' ↔
    ∃ x' s₁ xs', Pass.Ok (visitNode r (.stmt x)) s (.stmt x') s₁ ∧
      Pass.Ok (visitNode r (.stmts xs)) s₁ (.stmts xs') s' ∧ n' = .stmts (x' :: xs') := by
  simp only [visitNode, visitStmts, Pass.ok_map, Pass.ok_bind, Pass.ok_pure]
  constructor
  · rintro ⟨y, ⟨x', s₁, hx, xs', s₂, hxs, rfl, rfl⟩, rfl⟩
    exact ⟨x', s₁, xs', ⟨x', hx, rfl⟩, ⟨xs', hxs, rfl⟩, rfl⟩
  · rintro ⟨x', s₁, xs', ⟨_, hx, ⟨⟩⟩, ⟨_, hxs, ⟨⟩⟩, rfl⟩
    exact ⟨_, ⟨x', s₁, hx, xs', s', hxs, rfl, rfl⟩, rfl⟩

/-! ## Runs are visits -/

/-- Where the pass gets through a node, it visits it. -/
theorem visit_of_ok (n : Node) : ∀ {s n' s'}, Pass.Ok (visitNode r n) s n' s' → ∃ vs, Visit r s n n' s' vs := by
  induction n using Node.induct with
  | line l =>
    intro s n' s' h
    obtain ⟨is, hi, rfl⟩ := line_ok.1 h
    exact ⟨[], .line hi⟩
  | compound cs ih =>
    intro s n' s' h
    obtain ⟨cs', hc, rfl⟩ := compound_ok.1 h
    obtain ⟨vs, hv⟩ := ih hc
    exact ⟨vs, .compound hv⟩
  | funcDef h b ih =>
    intro s n' s' hr
    obtain ⟨ds, s₁, b', hd, hb, rfl⟩ := funcDef_ok.1 hr
    obtain ⟨vs, hv⟩ := ih hb
    exact ⟨vs, .funcDef hd hv⟩
  | classDef h b ih =>
    intro s n' s' hr
    obtain ⟨c, t, hi, rfl, rfl⟩ := classDef_ok.1 hr
    obtain ⟨ds, s₁, b', hd, hb, rfl⟩ := inside_ok.1 hi
    obtain ⟨vs, hv⟩ := ih hb
    exact ⟨_, .classDef hd hv rfl⟩
  | inline o is t =>
    intro s n' s' h
    obtain ⟨is', hi, rfl⟩ := inline_ok.1 h
    exact ⟨[], .inline hi⟩
  | block o i xs f ih =>
    intro s n' s' h
    obtain ⟨xs', hx, rfl⟩ := block_ok.1 h
    obtain ⟨vs, hv⟩ := ih hx
    exact ⟨vs, .block hv⟩
  | noClause =>
    intro s n' s' h
    obtain ⟨rfl, rfl⟩ := noClause_ok.1 h
    exact ⟨[], .noClause⟩
  | clause head b cs ihb ihc =>
    intro s n' s' h
    obtain ⟨b', s₁, cs', hb, hc, rfl⟩ := clause_ok.1 h
    obtain ⟨vs, hv⟩ := ihb hb
    obtain ⟨vs', hv'⟩ := ihc hc
    exact ⟨vs ++ vs', .clause hv hv'⟩
  | noStmt =>
    intro s n' s' h
    obtain ⟨rfl, rfl⟩ := noStmt_ok.1 h
    exact ⟨[], .noStmt⟩
  | next x xs ihx ihxs =>
    intro s n' s' h
    obtain ⟨x', s₁, xs', hx, hxs, rfl⟩ := next_ok.1 h
    obtain ⟨vs, hv⟩ := ihx hx
    obtain ⟨vs', hv'⟩ := ihxs hxs
    exact ⟨vs ++ vs', .next hv hv'⟩

/-- What a visit tells of a class is how the pass went through it. -/
structure ClassVisit.Happened (r : Resolver) (v : ClassVisit) : Prop where
  inside : Pass.Ok (visitInside r v.cls) v.before v.updated v.inside
  whole : Pass.Ok (visitStmt r v.cls.stmt) v.before v.result.stmt v.after

theorem ClassVisit.happened {v : ClassVisit} (h : Pass.Ok (visitInside r v.cls) v.before v.updated v.inside) :
    v.Happened r := by
  refine ⟨h, ?_⟩
  obtain ⟨x, hx, he⟩ := Pass.ok_map.1 (classDef_ok.2 ⟨v.updated, v.inside, h, rfl, rfl⟩)
  cases he
  exact hx

/-- A visit is a run of the pass that does not fail, and so is what it tells of each class. -/
theorem Visit.ok {s n n' s' vs} (h : Visit r s n n' s' vs) :
    Pass.Ok (visitNode r n) s n' s' ∧ ∀ v ∈ vs, v.Happened r := by
  induction h with
  | line hi => exact ⟨line_ok.2 ⟨_, hi, rfl⟩, by simp⟩
  | compound _ ih => exact ⟨compound_ok.2 ⟨_, ih.1, rfl⟩, ih.2⟩
  | funcDef hd _ ih => exact ⟨funcDef_ok.2 ⟨_, _, _, hd, ih.1, rfl⟩, ih.2⟩
  | @classDef s s₁ s₂ h ds b b' vs v hd _ hv ih =>
    subst hv
    have hi : Pass.Ok (visitInside r ⟨h, b⟩) s ⟨{ h with decorators := ds }, b'⟩ s₂ :=
      inside_ok.2 ⟨ds, s₁, b', hd, ih.1, rfl⟩
    refine ⟨classDef_ok.2 ⟨_, _, hi, rfl, rfl⟩, ?_⟩
    intro w hw
    rcases List.mem_append.1 hw with hw | hw
    · exact ih.2 w hw
    · rw [List.mem_singleton.1 hw]
      exact ClassVisit.happened hi
  | inline hi => exact ⟨inline_ok.2 ⟨_, hi, rfl⟩, by simp⟩
  | block _ ih => exact ⟨block_ok.2 ⟨_, ih.1, rfl⟩, ih.2⟩
  | noClause => exact ⟨noClause_ok.2 ⟨rfl, rfl⟩, by simp⟩
  | clause _ _ ihb ihc =>
    refine ⟨clause_ok.2 ⟨_, _, _, ihb.1, ihc.1, rfl⟩, ?_⟩
    intro v hv
    exact (List.mem_append.1 hv).elim (ihb.2 v) (ihc.2 v)
  | noStmt => exact ⟨noStmt_ok.2 ⟨rfl, rfl⟩, by simp⟩
  | next _ _ ihx ihxs =>
    refine ⟨next_ok.2 ⟨_, _, _, ihx.1, ihxs.1, rfl⟩, ?_⟩
    intro v hv
    exact (List.mem_append.1 hv).elim (ihx.2 v) (ihxs.2 v)

/-- The visit of a module. -/
theorem visit_of_module {m m' : Module} {s s' : State} (h : Pass.Ok (visitModule r m) s m' s') :
    ∃ vs, Visit r s (.stmts m.body) (.stmts m'.body) s' vs ∧ m' = { m with body := m'.body } := by
  simp only [visitModule, Pass.ok_bind, Pass.ok_pure] at h
  obtain ⟨xs, s₁, hx, rfl, rfl⟩ := h
  obtain ⟨vs, hv⟩ := visit_of_ok (.stmts m.body) (Pass.ok_map.2 ⟨xs, hx, rfl⟩)
  exact ⟨vs, hv, rfl⟩

end AttrsUpgrade
