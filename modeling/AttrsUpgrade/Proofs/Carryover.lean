import AttrsUpgrade.Proofs.Independence
import AttrsUpgrade.Proofs.Upgraded
/-!
# What a module reads of the state before it

The state goes on from one module to the next. Entering a class overwrites it, and in a closed state nothing outside of
classes changes it, so it can only matter to the small statements that the pass comes to before it enters a class
(`Node.exposed`). Two runs of the pass from closed states that make the same of each of them come to the same
(`Node.alike`), and where two runs come to the same, they did make the same of each of them (`Node.fates_of_ok`).
-/

namespace AttrsUpgrade

/-- What the pass makes of a small statement in the state `s`. -/
def Item.fate (r : Resolver) (s : State) (i : Item) : Except ArgOrderError Item :=
  (upgradeSmall? r s i.stmt).map fun y => (y.map fun x => Item.mk x none).getD i

mutual

/-- The small statements that the pass comes to before it enters a class. -/
def Stmt.exposed : Stmt → List Item
  | .line l => l.items
  | .compound cs => clauseExposed cs
  | .funcDef _ b => b.exposed
  | .classDef _ _ => []

def clauseExposed : List Clause → List Item
  | [] => []
  | ⟨_, b⟩ :: cs => b.exposed ++ if b.classes.isEmpty then clauseExposed cs else []

def Suite.exposed : Suite → List Item
  | .inline _ is _ => is
  | .block _ _ xs _ => stmtExposed xs

def stmtExposed : List Stmt → List Item
  | [] => []
  | x :: xs => x.exposed ++ if x.classes.isEmpty then stmtExposed xs else []

end

def Node.exposed : Node → List Item
  | .stmt x => x.exposed
  | .stmts xs => stmtExposed xs
  | .clauses cs => clauseExposed cs
  | .suite b => b.exposed

def Module.exposed (m : Module) : List Item := stmtExposed m.body

/-! ## Steps in a closed state -/

variable {r : Resolver} {s s₁ s₂ s' : State}

theorem State.Closed.see_eq (h : s.Closed) (calls : List Call) : s.see r calls = s := by
  simp [State.see, h.inClass]

theorem State.Closed.seeParts_eq (h : s.Closed) (ps : List Part) : s.seeParts r ps = s := h.see_eq _

theorem State.Closed.seeSmall_eq (h : s.Closed) (x : Small) : s.seeSmall r x = s := by
  cases x with
  | annAssign target hint value =>
    obtain ⟨untyped, className, inAnnotated, decorated, inClass, skipped⟩ := s
    simp only [State.seeSmall, State.mk.injEq]
    exact ⟨trivial, trivial, h.inAnnotated.symm, trivial, trivial, trivial⟩
  | _ => exact h.see_eq _

theorem State.Closed.run_see (h : s.Closed) (ps : List Part) : Pass.Ok (AttrsUpgrade.see r ps) s () s :=
  see_ok.2 (h.seeParts_eq ps).symm

theorem State.Closed.run_item (h : s.Closed) (i : Item) : (visitItem r i).run.run s = (i.fate r s, s) := by
  have hsee : Pass.Ok (modify (State.seeSmall r i.stmt)) s () s := Pass.ok_modify.2 (h.seeSmall_eq i.stmt).symm
  -- the statement is decided on in the state that was there before it was seen
  rw [visitItem, Pass.run_bind_ok hsee, Pass.run_bind_ok (Pass.ok_get.2 ⟨rfl, rfl⟩)]
  unfold Item.fate
  rcases hu : upgradeSmall? r s i.stmt with e | _ | x <;> rfl

theorem State.Closed.run_decorators (h : s.Closed) (ds : List Decorator) : Pass.Ok (visitDecorators r ds) s ds s := by
  induction ds with
  | nil => exact Pass.ok_pure.2 ⟨rfl, rfl⟩
  | cons d ds ih =>
    have hd : Pass.Ok (visitDecorator r d) s d s := by
      simp only [visitDecorator, Pass.ok_bind, Pass.ok_get]
      refine ⟨(), s, h.run_see _, s, s, ⟨rfl, rfl⟩, ?_⟩
      simp [h.inClass]
    simp only [visitDecorators, Pass.ok_bind, Pass.ok_pure]
    exact ⟨d, s, hd, ds, s, ih, rfl, rfl⟩

/-- Outside of classes only annotated assignments are replaced. -/
theorem Item.fate_of_plain {i : Item} (hc : s.inClass = false) (hi : i.stmt.isAnnAssign = false) : i.fate r s = .ok i := by
  obtain ⟨x, sep⟩ := i
  cases x with
  | annAssign target hint value => cases hi
  | assign targets value =>
    cases targets with
    | nil => rfl
    | cons target targets => simp [Item.fate, upgradeSmall?, hc, Except.map]
  | _ => rfl

/-! ## Two runs -/

/-- Two runs of a step come to the same. A step that is not `plain` makes the states the same if it succeeds; one that is
leaves each state as it is. -/
inductive Pass.Alike {α : Type} (p : Pass α) (s₁ s₂ : State) (plain : Prop) : Prop
  | same : p.run.run s₁ = p.run.run s₂ → ¬plain → Pass.Alike p s₁ s₂ plain
  | apart (x : Except ArgOrderError α) : p.run.run s₁ = (x, s₁) → p.run.run s₂ = (x, s₂) → ((∃ a, x = .ok a) → plain) →
      Pass.Alike p s₁ s₂ plain

namespace Pass.Alike
variable {α β : Type} {p : Pass α} {f : α → Pass β} {P Q : Prop}

theorem congr (h : Alike p s₁ s₂ P) (hq : P ↔ Q) : Alike p s₁ s₂ Q := by rwa [← hq]

theorem pure (a : α) : Alike (pure a) s₁ s₂ True := .apart (.ok a) rfl rfl fun _ => trivial

theorem of_ok {a : α} (h₁ : Ok p s₁ a s₁) (h₂ : Ok p s₂ a s₂) : Alike p s₁ s₂ True := .apart (.ok a) h₁ h₂ fun _ => trivial

theorem bind (hp : Alike p s₁ s₂ P) (hf : ∀ a, P → Alike (f a) s₁ s₂ Q) : Alike (p >>= f) s₁ s₂ (P ∧ Q) := by
  cases hp with
  | same h hn => exact .same (by simp only [ExceptT.run_bind, StateT.run_bind, h]) fun hq => hn hq.1
  | apart x h₁ h₂ hx =>
    cases x with
    | error e => exact .apart (.error e) (run_bind_error h₁) (run_bind_error h₂) (by simp)
    | ok a =>
      have hP : P := hx ⟨a, rfl⟩
      -- the second step begins in the states that the first began in
      cases hf a hP with
      | same h hn => exact .same (by rw [run_bind_ok h₁, run_bind_ok h₂, h]) fun hq => hn hq.2
      | apart y h₁' h₂' hy =>
        exact .apart y ((run_bind_ok h₁).trans h₁') ((run_bind_ok h₂).trans h₂') fun hok => ⟨hP, hy hok⟩

theorem map (hp : Alike p s₁ s₂ P) (g : α → β) : Alike (p >>= fun a => Pure.pure (g a)) s₁ s₂ P :=
  (hp.bind fun a _ => .pure (g a)).congr (by rw [and_true])

theorem result_eq (h : Alike p s₁ s₂ P) : (p.run.run s₁).1 = (p.run.run s₂).1 := by
  cases h with
  | same h _ => rw [h]
  | apart x h₁ h₂ _ => rw [h₁, h₂]

theorem skipped_eq (h : Alike p s₁ s₂ P) (hw : s₁.skipped = s₂.skipped) :
    (p.run.run s₁).2.skipped = (p.run.run s₂).2.skipped := by
  cases h with
  | same h _ => rw [h]
  | apart x h₁ h₂ _ => rw [h₁, h₂, hw]

end Pass.Alike

/-- The pass on the node comes to the same from both states. -/
def Node.Alike (r : Resolver) (s₁ s₂ : State) (n : Node) : Prop :=
  match n with
  | .stmt x => Pass.Alike (visitStmt r x) s₁ s₂ (n.classes = [])
  | .stmts xs => Pass.Alike (visitStmts r xs) s₁ s₂ (n.classes = [])
  | .clauses cs => Pass.Alike (visitClauses r cs) s₁ s₂ (n.classes = [])
  | .suite b => Pass.Alike (visitSuite r b) s₁ s₂ (n.classes = [])

theorem items_alike (h₁ : s₁.Closed) (h₂ : s₂.Closed) {is : List Item} (hf : ∀ i ∈ is, i.fate r s₁ = i.fate r s₂) :
    Pass.Alike (visitItems r is) s₁ s₂ True := by
  induction is with
  | nil => exact .pure _
  | cons i is ih =>
    have hi : Pass.Alike (visitItem r i) s₁ s₂ True := by
      refine .apart (i.fate r s₁) (h₁.run_item i) ?_ fun _ => trivial
      rw [h₂.run_item i, hf i List.mem_cons_self]
    have his := ih fun j hj => hf j (List.mem_cons_of_mem _ hj)
    exact (hi.bind fun j _ => his.map _).congr (by rw [and_true])

/-- Two runs from closed states that make the same of every small statement before the first class. -/
theorem Node.alike (h₁ : s₁.Closed) (h₂ : s₂.Closed) (hw : s₁.skipped = s₂.skipped) (n : Node)
    (hf : ∀ i ∈ n.exposed, i.fate r s₁ = i.fate r s₂) : n.Alike r s₁ s₂ := by
  induction n using Node.induct with
  | line l => exact ((items_alike h₁ h₂ hf).map _).congr (iff_of_true trivial rfl)
  | inline o is t => exact ((items_alike h₁ h₂ hf).map _).congr (iff_of_true trivial rfl)
  | compound cs ih => exact (ih hf).map _
  | block o i xs f ih => exact (ih hf).map _
  | funcDef h b ih =>
    have hd : Pass.Alike (visitDecorators r h.decorators) s₁ s₂ True := .of_ok (h₁.run_decorators _) (h₂.run_decorators _)
    have hs : Pass.Alike (see r h.rest) s₁ s₂ True := .of_ok (h₁.run_see _) (h₂.run_see _)
    exact (hd.bind fun ds _ => hs.bind fun _ _ => (ih hf).map _).congr (by simp only [true_and]; rfl)
  | classDef h b ih =>
    -- the class forgets the state, and the warnings are the same
    refine .same ?_ (by simp [Node.classes, Stmt.classes])
    exact (h₁.visit_class r ⟨h, b⟩).trans (hw ▸ (h₂.visit_class r ⟨h, b⟩).symm)
  | noClause | noStmt => exact (Pass.Alike.pure _).congr (iff_of_true trivial rfl)
  | clause head b cs ihb ihc =>
    rw [Node.exposed, clauseExposed, List.forall_mem_append] at hf
    have hs : Pass.Alike (see r head.header.parts) s₁ s₂ True := .of_ok (h₁.run_see _) (h₂.run_see _)
    have hb : Pass.Alike (visitClause r ⟨head, b⟩) s₁ s₂ (b.classes = []) :=
      (hs.bind fun _ _ => (ihb hf.1).map _).congr (by rw [true_and]; rfl)
    refine (hb.bind fun c hc => Pass.Alike.map (ihc ?_) _).congr List.append_eq_nil_iff.symm
    rw [hc] at hf
    exact hf.2
  | next x xs ihx ihxs =>
    rw [Node.exposed, stmtExposed, List.forall_mem_append] at hf
    refine (Pass.Alike.bind (ihx hf.1) fun y hx => Pass.Alike.map (ihxs ?_) _).congr List.append_eq_nil_iff.symm
    have hx : x.classes = [] := hx
    rw [hx] at hf
    exact hf.2

/-! ## Runs that come to the same -/

theorem Pass.Ok.unique {α : Type} {p : Pass α} {a b : α} (h : Pass.Ok p s a s₁) (h' : Pass.Ok p s b s₂) : a = b ∧ s₁ = s₂ := by
  have he := h.symm.trans h'
  obtain ⟨ha, hs⟩ := Prod.mk.inj he
  exact ⟨Except.ok.inj ha, hs⟩

/-- In a closed state a node without classes leaves the state as it is. -/
theorem Node.steady {n n' : Node} (hs : s.Closed) (h : Pass.Ok (visitNode r n) s n' s') (hc : n.classes = []) : s' = s := by
  have ha : Pass.Alike (visitNode r n) s s (n.classes = []) := by
    have hn : n.Alike r s s := Node.alike hs hs rfl n fun _ _ => rfl
    cases n with
    | stmt x => exact Pass.Alike.map hn Node.stmt
    | stmts xs => exact Pass.Alike.map hn Node.stmts
    | clauses cs => exact Pass.Alike.map hn Node.clauses
    | suite b => exact Pass.Alike.map hn Node.suite
  cases ha with
  | same _ hn => exact absurd hc hn
  | apart x h₁ _ _ =>
    have he := h.symm.trans h₁
    exact (Prod.mk.inj he).2

theorem item_fate {i i' : Item} (hs : s.Closed) (h : Pass.Ok (visitItem r i) s i' s') : i.fate r s = .ok i' ∧ s' = s := by
  have he := (hs.run_item i).symm.trans h
  obtain ⟨hi, rfl⟩ := Prod.mk.inj he
  exact ⟨hi, rfl⟩

theorem items_fates (h₁ : s₁.Closed) (h₂ : s₂.Closed) {is is' : List Item} {s₁' s₂' : State}
    (ho₁ : Pass.Ok (visitItems r is) s₁ is' s₁') (ho₂ : Pass.Ok (visitItems r is) s₂ is' s₂') :
    ∀ i ∈ is, i.fate r s₁ = i.fate r s₂ := by
  induction is generalizing is' with
  | nil => simp
  | cons i is ih =>
    simp only [visitItems, Pass.ok_bind, Pass.ok_pure] at ho₁ ho₂
    obtain ⟨i', t₁, hi₁, js, _, his₁, rfl, rfl⟩ := ho₁
    obtain ⟨_, t₂, hi₂, _, _, his₂, heq, rfl⟩ := ho₂
    obtain ⟨rfl, rfl⟩ := List.cons.inj heq
    obtain ⟨hf₁, rfl⟩ := item_fate h₁ hi₁
    obtain ⟨hf₂, rfl⟩ := item_fate h₂ hi₂
    exact List.forall_mem_cons.2 ⟨hf₁.trans hf₂.symm, ih his₁ his₂⟩

/-- Two runs from closed states that come to the same node made the same of every small statement before the first
class. -/
theorem Node.fates_of_ok (h₁ : s₁.Closed) (h₂ : s₂.Closed) (n : Node) : ∀ {n' s₁' s₂'},
    Pass.Ok (visitNode r n) s₁ n' s₁' → Pass.Ok (visitNode r n) s₂ n' s₂' → ∀ i ∈ n.exposed, i.fate r s₁ = i.fate r s₂ := by
  induction n using Node.induct with
  | line l =>
    intro n' s₁' s₂' ho₁ ho₂
    obtain ⟨is, hi₁, rfl⟩ := line_ok.1 ho₁
    obtain ⟨_, hi₂, ⟨⟩⟩ := line_ok.1 ho₂
    exact items_fates h₁ h₂ hi₁ hi₂
  | inline o is t =>
    intro n' s₁' s₂' ho₁ ho₂
    obtain ⟨is, hi₁, rfl⟩ := inline_ok.1 ho₁
    obtain ⟨_, hi₂, ⟨⟩⟩ := inline_ok.1 ho₂
    exact items_fates h₁ h₂ hi₁ hi₂
  | compound cs ih =>
    intro n' s₁' s₂' ho₁ ho₂
    obtain ⟨cs', hc₁, rfl⟩ := compound_ok.1 ho₁
    obtain ⟨_, hc₂, ⟨⟩⟩ := compound_ok.1 ho₂
    exact ih hc₁ hc₂
  | block o i xs f ih =>
    intro n' s₁' s₂' ho₁ ho₂
    obtain ⟨xs', hx₁, rfl⟩ := block_ok.1 ho₁
    obtain ⟨_, hx₂, ⟨⟩⟩ := block_ok.1 ho₂
    exact ih hx₁ hx₂
  | funcDef h b ih =>
    intro n' s₁' s₂' ho₁ ho₂
    obtain ⟨_, _, b', hd₁, hb₁, rfl⟩ := funcDef_ok.1 ho₁
    obtain ⟨_, _, _, hd₂, hb₂, ⟨⟩⟩ := funcDef_ok.1 ho₂
    obtain ⟨-, rfl⟩ := hd₁.unique (h₁.run_decorators _)
    obtain ⟨-, rfl⟩ := hd₂.unique (h₂.run_decorators _)
    rw [h₁.seeParts_eq] at hb₁
    rw [h₂.seeParts_eq] at hb₂
    exact ih hb₁ hb₂
  | classDef h b ih => simp [Node.exposed, Stmt.exposed]
  | noClause => simp [Node.exposed, clauseExposed]
  | noStmt => simp [Node.exposed, stmtExposed]
  | clause head b cs ihb ihc =>
    intro n' s₁' s₂' ho₁ ho₂
    obtain ⟨b', t₁, cs', hb₁, hc₁, rfl⟩ := clause_ok.1 ho₁
    obtain ⟨_, t₂, _, hb₂, hc₂, ⟨⟩⟩ := clause_ok.1 ho₂
    rw [h₁.seeParts_eq] at hb₁
    rw [h₂.seeParts_eq] at hb₂
    rw [Node.exposed, clauseExposed, List.forall_mem_append]
    refine ⟨ihb hb₁ hb₂, ?_⟩
    by_cases hb : b.classes = []
    · -- without a class the second node is visited from the same two states
      obtain rfl := Node.steady h₁ hb₁ hb
      obtain rfl := Node.steady h₂ hb₂ hb
      rw [hb]
      exact ihc hc₁ hc₂
    · simp [hb]
  | next x xs ihx ihxs =>
    intro n' s₁' s₂' ho₁ ho₂
    obtain ⟨x', t₁, xs', hx₁, hxs₁, rfl⟩ := next_ok.1 ho₁
    obtain ⟨_, t₂, _, hx₂, hxs₂, ⟨⟩⟩ := next_ok.1 ho₂
    rw [Node.exposed, stmtExposed, List.forall_mem_append]
    refine ⟨ihx hx₁ hx₂, ?_⟩
    by_cases hx : x.classes = []
    · obtain rfl := Node.steady h₁ hx₁ hx
      obtain rfl := Node.steady h₂ hx₂ hx
      rw [hx]
      exact ihxs hxs₁ hxs₂
    · simp [hx]

/-! ## Runs that fail -/

/-- The step ends outside of annotated assignments if it begins there, whether it succeeds or not. -/
def Pass.Keeps {α : Type} (p : Pass α) : Prop := ∀ s, s.inAnnotated = false → (p.run.run s).2.inAnnotated = false

namespace Pass.Keeps
variable {α β : Type}

theorem pure (a : α) : Keeps (pure a : Pass α) := fun _ h => h

theorem ofExcept (x : Except ArgOrderError α) : Keeps (ofExcept x) := fun _ h => h

theorem get : Keeps (MonadState.get : Pass State) := fun _ h => h

theorem modify {f : State → State} (hf : ∀ s, s.inAnnotated = false → (f s).inAnnotated = false) :
    Keeps (modify f : Pass PUnit) := hf

theorem bind {p : Pass α} {f : α → Pass β} (hp : Keeps p) (hf : ∀ a, Keeps (f a)) : Keeps (p >>= f) := by
  intro s hs
  have hps := hp s hs
  rcases he : p.run.run s with ⟨e | a, t⟩
  · rw [he] at hps
    rw [run_bind_error he]
    exact hps
  · rw [he] at hps
    rw [run_bind_ok he]
    exact hf a t hps

end Pass.Keeps

theorem see_keeps (ps : List Part) : Pass.Keeps (see r ps) :=
  .modify fun s hs => (seeParts_looked r ps s).moved.inAnnotated hs

theorem visitItems_keeps (is : List Item) : Pass.Keeps (visitItems r is) := by
  induction is with
  | nil => exact .pure _
  | cons i is ih =>
    have hsee : Pass.Keeps (modify (State.seeSmall r i.stmt) : Pass PUnit) :=
      .modify fun s hs => (seeSmall_looked i.stmt s).moved.inAnnotated hs
    refine .bind (.bind hsee fun _ => .bind .get fun s => .bind (.ofExcept _) fun y => ?_) fun _ => .bind ih fun _ => .pure _
    cases y <;> exact .pure _

theorem visitDecorators_keeps (ds : List Decorator) : Pass.Keeps (visitDecorators r ds) := by
  induction ds with
  | nil => exact .pure _
  | cons d ds ih =>
    refine .bind (.bind (see_keeps _) fun _ => .bind .get fun s => ?_) fun _ => .bind ih fun _ => .pure _
    split
    · exact .ofExcept _
    · exact .pure _

def Node.Keeps (r : Resolver) : Node → Prop
  | .stmt x => Pass.Keeps (visitStmt r x)
  | .stmts xs => Pass.Keeps (visitStmts r xs)
  | .clauses cs => Pass.Keeps (visitClauses r cs)
  | .suite b => Pass.Keeps (visitSuite r b)

theorem Node.keeps (n : Node) : n.Keeps r := by
  induction n using Node.induct with
  | line l => exact .bind (visitItems_keeps _) fun _ => .pure _
  | inline o is t => exact .bind (visitItems_keeps _) fun _ => .pure _
  | compound cs ih => exact Pass.Keeps.bind ih fun _ => .pure _
  | block o i xs f ih => exact Pass.Keeps.bind ih fun _ => .pure _
  | funcDef h b ih =>
    refine .bind (visitDecorators_keeps _) fun _ => .bind (see_keeps _) fun _ => ?_
    exact Pass.Keeps.bind ih fun _ => .pure _
  | classDef h b ih =>
    refine .bind .get fun s => .bind (.modify fun _ hs => hs) fun _ => .bind (visitDecorators_keeps _) fun _ => ?_
    exact .bind (see_keeps _) fun _ => Pass.Keeps.bind ih fun _ => fun _ hs => hs
  | noClause | noStmt => exact .pure _
  | clause head b cs ihb ihc =>
    have hclause : Pass.Keeps (visitClause r ⟨head, b⟩) := .bind (see_keeps _) fun _ => Pass.Keeps.bind ihb fun _ => .pure _
    exact .bind hclause fun _ => Pass.Keeps.bind ihc fun _ => .pure _
  | next x xs ihx ihxs => exact Pass.Keeps.bind ihx fun _ => Pass.Keeps.bind ihxs fun _ => .pure _

/-! ## Texts -/

/-- The two states decide alike on every small statement of the text before its first class. -/
def State.AgreeOn (text : String) (s₁ s₂ : State) : Prop :=
  ∀ m table, Module.parse? text = some m → m.scan = .ok table →
    ∀ i ∈ m.exposed, i.fate (table.resolver m) s₁ = i.fate (table.resolver m) s₂

/-- A tree that a transformation has visited comes from a visit of the statements. -/
theorem Session.visit_of_visited {s : Session} {text : String} {m visited : Module} {table : Table}
    (hm : Module.parse? text = some m) (ht : m.scan = .ok table) (hv : (s.transform text).visited = some visited) :
    ∃ t vs, Visit (table.resolver m) s.state (.stmts m.body) (.stmts visited.body) t vs := by
  obtain ⟨t, hrun⟩ := Session.pass_of_visited hm ht hv
  obtain ⟨vs, hvisit, -⟩ := visit_of_module hrun
  exact ⟨t, vs, hvisit⟩

theorem Session.goOn_alike {s₁ s₂ : Session} {x₁ x₂ : Except ArgOrderError Module × State} (hn : s₁.needs = s₂.needs)
    (hx : x₁.1 = x₂.1) (hw : x₁.2.skipped = x₂.2.skipped) :
    (s₁.goOn x₁).visited = (s₂.goOn x₂).visited ∧ (s₁.goOn x₁).result = (s₂.goOn x₂).result ∧
      (s₁.goOn x₁).printed = (s₂.goOn x₂).printed := by
  obtain ⟨x, t₁⟩ := x₁
  obtain ⟨_, t₂⟩ := x₂
  subst hx
  change t₁.skipped = t₂.skipped at hw
  cases x with
  | error e => exact ⟨rfl, rfl, by simp only [Run.printed, Session.goOn, hw]⟩
  | ok v =>
    simp only [Session.goOn, Session.finish, hn, Run.printed]
    cases v.addImports (s₂.needs ++ v.needs) <;> exact ⟨rfl, rfl, by simp only [hw]⟩

/-- The transformation of any other text, which leaves the session as it is. -/
theorem Session.transform_of_unread {text : String}
    (h : ∀ m table, Module.parse? text = some m → m.scan ≠ .ok table) :
    ∃ e, ∀ s : Session, s.transform text = ⟨s, none, none, .error e⟩ := by
  cases hm : Module.parse? text with
  | none => exact ⟨.unreadable, fun s => by simp only [Session.transform, hm]⟩
  | some m =>
    cases ht : m.scan with
    | error e => exact ⟨.resolve e, fun s => by simp only [Session.transform, hm, Session.transformModule, ht]⟩
    | ok table => exact absurd ht (h m table hm)

/-- Either the names of a text can be resolved or they cannot. -/
theorem read_or_unread (text : String) : (∃ m table, Module.parse? text = some m ∧ m.scan = .ok table) ∨
    ∀ m table, Module.parse? text = some m → m.scan ≠ .ok table := by
  by_cases h : ∃ m table, Module.parse? text = some m ∧ m.scan = .ok table
  · exact .inl h
  · exact .inr fun m table hm ht => h ⟨m, table, hm, ht⟩

/-- A text is transformed alike in two sessions whose states agree on it. -/
theorem Session.transform_alike {s₁ s₂ : Session} {text : String} (h₁ : s₁.state.Closed) (h₂ : s₂.state.Closed)
    (hw : s₁.state.skipped = s₂.state.skipped) (hn : s₁.needs = s₂.needs) (hf : s₁.state.AgreeOn text s₂.state) :
    (s₁.transform text).visited = (s₂.transform text).visited ∧ (s₁.transform text).result = (s₂.transform text).result ∧
      (s₁.transform text).printed = (s₂.transform text).printed := by
  rcases read_or_unread text with ⟨m, table, hm, ht⟩ | hno
  · have ha : Pass.Alike (visitModule (table.resolver m) m) s₁.state s₂.state (m.classes = []) :=
      Pass.Alike.map (Node.alike h₁ h₂ hw (.stmts m.body) (hf m table hm ht)) _
    rw [Session.transform_of_read hm ht, Session.transform_of_read hm ht]
    exact Session.goOn_alike hn ha.result_eq (ha.skipped_eq hw)
  · obtain ⟨e, he⟩ := Session.transform_of_unread hno
    rw [he, he]
    exact ⟨rfl, rfl, by simp only [Run.printed, hw]⟩

/-- Where a text is visited alike in two sessions, their states agree on it. -/
theorem Session.agreeOn_of_visited {s₁ s₂ : Session} {text : String} {v : Module} (h₁ : s₁.state.Closed)
    (h₂ : s₂.state.Closed) (hv₁ : (s₁.transform text).visited = some v) (hv₂ : (s₂.transform text).visited = some v) :
    s₁.state.AgreeOn text s₂.state := by
  intro m table hm ht
  -- the visited module comes out of the pass from the state of its session
  have hok : ∀ {s : Session}, (s.transform text).visited = some v →
      ∃ t, Pass.Ok (visitNode (table.resolver m) (.stmts m.body)) s.state (.stmts v.body) t := by
    intro s hv
    obtain ⟨t, vs, hvis⟩ := Session.visit_of_visited hm ht hv
    exact ⟨t, hvis.ok.1⟩
  obtain ⟨t₁, ho₁⟩ := hok hv₁
  obtain ⟨t₂, ho₂⟩ := hok hv₂
  exact Node.fates_of_ok h₁ h₂ (.stmts m.body) ho₁ ho₂

/-- Whatever comes of a text, the session ends outside of annotated assignments; only a text whose classes cannot be visited
may leave it inside of a class. -/
theorem Session.transform_closed {s : Session} (text : String) (h : s.state.inAnnotated = false) :
    (s.transform text).session.state.inAnnotated = false ∧
      ((∀ e, (s.transform text).result ≠ .error (.argOrder e)) →
        (s.transform text).session.state.inClass = s.state.inClass) := by
  rcases read_or_unread text with ⟨m, table, hm, ht⟩ | hno
  · have hk : Pass.Keeps (visitModule (table.resolver m) m) := .bind (Node.keeps (.stmts m.body)) fun _ => .pure _
    have hann := hk s.state h
    rw [Session.transform_of_read hm ht]
    rcases hrun : (visitModule (table.resolver m) m).run.run s.state with ⟨e | v, t⟩
    · -- an error inside of a class leaves its state behind
      rw [hrun] at hann
      exact ⟨hann, fun hr => absurd rfl (hr e)⟩
    · rw [hrun] at hann
      obtain ⟨vs, hvis, -⟩ := visit_of_module hrun
      simp only [Session.goOn, (Session.finish_session _ v).1]
      exact ⟨hann, fun _ => hvis.moved.inClass⟩
  · obtain ⟨e, he⟩ := Session.transform_of_unread hno
    rw [he]
    exact ⟨h, fun _ => rfl⟩

end AttrsUpgrade
