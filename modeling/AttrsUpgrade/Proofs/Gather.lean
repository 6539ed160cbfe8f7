import AttrsUpgrade.Proofs.Frame
/-!
# Gathering from a tree

A `Gather` says what is found at small statements and in headers; `Node.gather` lists what is found in a node, each with an
eye to the scope it stands in. What the pass, the added imports and the removed imports mean for everything that can be
gathered follows from what they mean for a small statement (`Edited.gather`, `addImports_gather`, `removeImports_gather`).
-/

namespace AttrsUpgrade

/-- The scope that a function opens. -/
def FuncHead.frame (h : FuncHead) : Frame := ⟨h.name.site, .function (some h.name.text)⟩

/-- The scope that a class opens. -/
def ClassHead.frame (h : ClassHead) : Frame := ⟨h.name.site, .cls h.name.text⟩

/-- What is found at the pieces of statements, each in the scope it stands in. -/
structure Gather (α : Type) where
  small : Scope → Small → List α
  func : Scope → FuncHead → List α
  cls : Scope → ClassHead → List α
  head : Scope → Header → List α

section
variable {α : Type} (g : Gather α)

def gatherItems (s : Scope) (is : List Item) : List α := is.flatMap fun i => g.small s i.stmt

mutual

/-- What is found in a statement in the scope `s`. -/
def Stmt.gather (s : Scope) : Stmt → List α
  | .line l => gatherItems g s l.items
  | .compound cs => gatherClauses s cs
  | .funcDef h b => g.func s h ++ b.gather (h.frame :: s)
  | .classDef h b => g.cls s h ++ b.gather (h.frame :: s)

def gatherClauses (s : Scope) : List Clause → List α
  | [] => []
  | ⟨head, b⟩ :: cs => g.head s head.header ++ b.gather s ++ gatherClauses s cs

def Suite.gather (s : Scope) : Suite → List α
  | .inline _ is _ => gatherItems g s is
  | .block _ _ xs _ => gatherStmts s xs

def gatherStmts (s : Scope) : List Stmt → List α
  | [] => []
  | x :: xs => x.gather s ++ gatherStmts s xs

end

def Node.gather (s : Scope) : Node → List α
  | .stmt x => x.gather g s
  | .stmts xs => gatherStmts g s xs
  | .clauses cs => gatherClauses g s cs
  | .suite b => b.gather g s

def Module.gather (m : Module) : List α := gatherStmts g [] m.body

theorem gatherStmts_append (s : Scope) (xs ys : List Stmt) :
    gatherStmts g s (xs ++ ys) = gatherStmts g s xs ++ gatherStmts g s ys := by
  induction xs with
  | nil => rfl
  | cons x xs ih => rw [List.cons_append, gatherStmts, ih, gatherStmts, List.append_assoc]

end

/-- The small statements of a node. -/
def placedSmalls : Gather (Scope × Small) where
  small s x := [(s, x)]
  func _ _ := []
  cls _ _ := []
  head _ _ := []

/-! ## Relations between what is gathered -/

/-- A relation that holds of two lists if it holds of their pieces. -/
structure Piecewise {α β : Type} (R : List α → List β → Prop) : Prop where
  nil : R [] []
  append : ∀ {xs ys xs' ys'}, R xs ys → R xs' ys' → R (xs ++ xs') (ys ++ ys')

/-- What is gathered in the headers of two nodes is related. -/
structure HeadsRelated {α β : Type} (R : List α → List β → Prop) (g : Gather α) (g' : Gather β) : Prop where
  func : ∀ s h, R (g.func s h) (g'.func s h)
  cls : ∀ s h, R (g.cls s h) (g'.cls s h)
  head : ∀ s h, R (g.head s h) (g'.head s h)

theorem HeadsRelated.of_refl {α : Type} {R : List α → List α → Prop} (h : ∀ xs, R xs xs) (g : Gather α) :
    HeadsRelated R g g :=
  ⟨fun _ _ => h _, fun _ _ => h _, fun _ _ => h _⟩

namespace Piecewise
variable {α β : Type} {R : List α → List β → Prop} (hR : Piecewise R)
include hR

theorem flatMap {γ δ : Type} {S : γ → δ → Prop} {f : γ → List α} {f' : δ → List β} {xs : List γ} {ys : List δ}
    (h : List.Forall₂ S xs ys) (hf : ∀ x ∈ xs, ∀ y, S x y → R (f x) (f' y)) : R (xs.flatMap f) (ys.flatMap f') := by
  induction h with
  | nil => exact hR.nil
  | @cons x y xs ys hx _ ih =>
    rw [List.flatMap_cons, List.flatMap_cons]
    exact hR.append (hf x List.mem_cons_self y hx) (ih fun z hz => hf z (List.mem_cons_of_mem _ hz))

end Piecewise

theorem Node.gather_related {α β : Type} {R : List α → List β → Prop} {g : Gather α} {g' : Gather β} (hR : Piecewise R)
    (hheads : HeadsRelated R g g') (hsmall : ∀ s x, R (g.small s x) (g'.small s x)) (n : Node) :
    ∀ s, R (n.gather g s) (n.gather g' s) := by
  have hitems : ∀ s is, R (gatherItems g s is) (gatherItems g' s is) :=
    fun s is => hR.flatMap (List.forall₂_same.2 fun _ _ => rfl) fun i _ i' hi => hi ▸ hsmall s i.stmt
  induction n using Node.induct with
  | line l => exact fun s => hitems s l.items
  | inline o is t => exact fun s => hitems s is
  | compound cs ih | block o i xs f ih => exact ih
  | funcDef h b ih => exact fun s => hR.append (hheads.func s h) (ih _)
  | classDef h b ih => exact fun s => hR.append (hheads.cls s h) (ih _)
  | noClause | noStmt => exact fun _ => hR.nil
  | clause head b cs ihb ihc => exact fun s => hR.append (hR.append (hheads.head s head.header) (ihb s)) (ihc s)
  | next x xs ihx ihxs => exact fun s => hR.append (ihx s) (ihxs s)

/-! ## The pass -/

section
variable {α β : Type} {r : Resolver}

/-- What the pass means for what is gathered, small statements being as `P` says. -/
structure EditRelated (r : Resolver) (R : List α → List β → Prop) (P : Scope → Small → Prop) (g : Gather α)
    (g' : Gather β) : Prop where
  small : ∀ s (i i' : Item), P s i.stmt → ItemEdit r i i' → R (g.small s i.stmt) (g'.small s i'.stmt)
  func : ∀ s (h : FuncHead) ds, List.Forall₂ (DecoratorEdit r) h.decorators ds →
    R (g.func s h) (g'.func s { h with decorators := ds })
  cls : ∀ s (h : ClassHead) ds, List.Forall₂ (DecoratorEdit r) h.decorators ds →
    R (g.cls s h) (g'.cls s { h with decorators := ds })
  head : ∀ s h, R (g.head s h) (g'.head s h)

variable {R : List α → List β → Prop} {P : Scope → Small → Prop} {g : Gather α} {g' : Gather β}

theorem EditRelated.items (hR : Piecewise R) (hg : EditRelated r R P g g') {is is' : List Item} {s : Scope}
    (h : List.Forall₂ (ItemEdit r) is is') (hok : ∀ y ∈ gatherItems placedSmalls s is, P y.1 y.2) :
    R (gatherItems g s is) (gatherItems g' s is') := by
  refine hR.flatMap h fun i hi i' he => hg.small s i i' ?_ he
  exact hok (s, i.stmt) (List.mem_flatMap.2 ⟨i, hi, List.mem_singleton_self _⟩)

theorem Edited.gather (hR : Piecewise R) (hg : EditRelated r R P g g') {n n' : Node} (h : Edited r n n') :
    ∀ s, (∀ y ∈ n.gather placedSmalls s, P y.1 y.2) → R (n.gather g s) (n'.gather g' s) := by
  induction h with
  | line hi | inline hi => exact fun s hok => hg.items hR hi hok
  | compound _ ih | block _ ih => exact ih
  | @funcDef h ds b b' hd _ ih =>
    intro s hok
    exact hR.append (hg.func s h ds hd) (ih (h.frame :: s) hok)
  | @classDef h ds b b' hd _ ih =>
    intro s hok
    exact hR.append (hg.cls s h ds hd) (ih (h.frame :: s) hok)
  | noClause | noStmt => exact fun _ _ => hR.nil
  | clause _ _ ihb ihc =>
    intro s hok
    refine hR.append (hR.append (hg.head s _) (ihb s fun y hy => hok y ?_)) (ihc s fun y hy => hok y ?_)
    · exact List.mem_append_left _ (List.mem_append_right _ hy)
    · exact List.mem_append_right _ hy
  | next _ _ ihx ihxs =>
    intro s hok
    refine hR.append (ihx s fun y hy => hok y ?_) (ihxs s fun y hy => hok y ?_)
    · exact List.mem_append_left _ hy
    · exact List.mem_append_right _ hy

end

/-! ## Imports that are added -/

theorem Small.receive_rest (names : List Alias) (x : Small) : (x.receive names).2 ⊆ names := by
  cases x with
  | importFrom f =>
    simp only [Small.receive]
    split
    · exact List.Subset.refl _
    · split
      · exact List.nil_subset _
      · exact List.Subset.refl _
  | _ => exact List.Subset.refl _

/-- The names that are left after a node has taken some. -/
def Node.receiveRest (names : List Alias) : Node → List Alias
  | .stmt x => (x.receive names).2
  | .stmts xs => (receiveStmts names xs).2
  | .clauses cs => (receiveClauses names cs).2
  | .suite b => (b.receive names).2

/-- Statements take names one after the other. -/
theorem receiveStmts_split (k : Nat) (xs : List Stmt) : ∀ names,
    (receiveStmts names xs).1.take k = (receiveStmts names (xs.take k)).1 ∧
    (receiveStmts names xs).1.drop k = (receiveStmts (receiveStmts names (xs.take k)).2 (xs.drop k)).1 ∧
    (receiveStmts names xs).2 = (receiveStmts (receiveStmts names (xs.take k)).2 (xs.drop k)).2 := by
  induction k generalizing xs with
  | zero => exact fun _ => ⟨rfl, rfl, rfl⟩
  | succ k ih =>
    intro names
    cases xs with
    | nil => exact ⟨rfl, rfl, rfl⟩
    | cons x xs =>
      obtain ⟨htake, hdrop, hrest⟩ := ih xs (x.receive names).2
      simp only [receiveStmts, List.take_succ_cons, List.drop_succ_cons, htake, hdrop, hrest, and_self]

section
variable {α : Type} {R : List α → List α → Prop} {g : Gather α} {all : List Alias}

theorem receiveItems_gather (hR : Piecewise R) (hsmall : ∀ names ⊆ all, ∀ s x, R (g.small s x) (g.small s (x.receive names).1))
    (s : Scope) (is : List Item) : ∀ names ⊆ all,
    R (gatherItems g s is) (gatherItems g s (receiveItems names is).1) ∧ (receiveItems names is).2 ⊆ all := by
  induction is with
  | nil => exact fun names hn => ⟨hR.nil, hn⟩
  | cons i is ih =>
    intro names hn
    obtain ⟨his, hrest⟩ := ih _ (List.Subset.trans (i.stmt.receive_rest names) hn)
    exact ⟨hR.append (hsmall names hn s i.stmt) his, hrest⟩

theorem Node.receive_gather (hR : Piecewise R) (hheads : HeadsRelated R g g)
    (hsmall : ∀ names ⊆ all, ∀ s x, R (g.small s x) (g.small s (x.receive names).1)) (n : Node) :
    ∀ names ⊆ all, ∀ s, R (n.gather g s) ((n.receive names).gather g s) ∧ n.receiveRest names ⊆ all := by
  induction n using Node.induct with
  | line l => exact fun names hn s => receiveItems_gather hR hsmall s l.items names hn
  | inline o is t => exact fun names hn s => receiveItems_gather hR hsmall s is names hn
  | compound cs ih | block o i xs f ih => exact ih
  | funcDef h b ih =>
    intro names hn s
    obtain ⟨hb, hrest⟩ := ih names hn (h.frame :: s)
    exact ⟨hR.append (hheads.func s h) hb, hrest⟩
  | classDef h b ih =>
    intro names hn s
    obtain ⟨hb, hrest⟩ := ih names hn (h.frame :: s)
    exact ⟨hR.append (hheads.cls s h) hb, hrest⟩
  | noClause | noStmt => exact fun names hn s => ⟨hR.nil, hn⟩
  | clause head b cs ihb ihc =>
    intro names hn s
    obtain ⟨hb, hrest⟩ := ihb names hn s
    obtain ⟨hc, hrest'⟩ := ihc _ hrest s
    exact ⟨hR.append (hR.append (hheads.head s head.header) hb) hc, hrest'⟩
  | next x xs ihx ihxs =>
    intro names hn s
    obtain ⟨hx, hrest⟩ := ihx names hn s
    obtain ⟨hxs, hrest'⟩ := ihxs _ hrest s
    exact ⟨hR.append hx hxs, hrest'⟩

end

/-- What is gathered does not hang on empty lines. -/
structure Gather.Blind {α : Type} (g : Gather α) : Prop where
  func : ∀ s (h : FuncHead) leading, g.func s { h with leading } = g.func s h
  cls : ∀ s (h : ClassHead) leading, g.cls s { h with leading } = g.cls s h

theorem setApart_gather {α : Type} {g : Gather α} (hg : g.Blind) (xs : List Stmt) (s : Scope) :
    gatherStmts g s (setApart xs) = gatherStmts g s xs := by
  have hstmt : ∀ x lines, (Stmt.setLeading lines x).gather g s = x.gather g s := by
    intro x lines
    cases x with
    | line l => rfl
    | funcDef h b => exact congrArg (· ++ b.gather g (h.frame :: s)) (hg.func s h lines)
    | classDef h b => exact congrArg (· ++ b.gather g (h.frame :: s)) (hg.cls s h lines)
    | compound cs =>
      cases cs with
      | nil => rfl
      | cons c cs =>
        obtain ⟨head, b⟩ := c
        rfl
  cases xs with
  | nil => rfl
  | cons x xs =>
    have hx : ∀ lines, gatherStmts g s (x.setLeading lines :: xs) = gatherStmts g s (x :: xs) := by
      intro lines
      rw [gatherStmts, hstmt, gatherStmts]
    simp only [setApart]
    split
    · exact hx _
    · split
      · exact hx _
      · rfl

/-- The names that a module is given. -/
def Module.newNames (needs : List Need) (m : Module) : List Alias := (m.imports.missing needs).objects.map Alias.ofName

/-- A module to which imports were added: names went to an import that was there, and new lines follow the first `k`
statements. -/
theorem addImports_body {m m' : Module} {needs : List Need} (h : m.addImports needs = .ok m') :
    ∃ k ≤ importPlace (receiveStmts (m.newNames needs) m.body).1, ∃ body back, m' = { m with body } ∧
      body = (receiveStmts (m.newNames needs) (m.body.take k)).1 ++
        newImports (m.imports.missing needs).package (receiveStmts (m.newNames needs) m.body).2 ++ back ∧
      (back = (receiveStmts (receiveStmts (m.newNames needs) (m.body.take k)).2 (m.body.drop k)).1 ∨
        back = setApart (receiveStmts (receiveStmts (m.newNames needs) (m.body.take k)).2 (m.body.drop k)).1) := by
  simp only [Module.addImports] at h
  split at h
  · next he =>
    cases h
    refine ⟨0, Nat.zero_le _, _, _, rfl, ?_, .inl rfl⟩
    rw [Module.newNames, List.isEmpty_iff.1 he]
    rfl
  · split at h
    · cases h
      obtain ⟨htake, hdrop, -⟩ := receiveStmts_split (importPlace (receiveStmts (m.newNames needs) m.body).1) m.body
        (m.newNames needs)
      refine ⟨_, Nat.le_refl _, _, _, rfl, ?_, .inr rfl⟩
      rw [← htake, ← hdrop]
      rfl
    · cases h

theorem addImports_gather {α : Type} {R : List α → List α → Prop} {g : Gather α} (hR : Piecewise R) (hg : g.Blind)
    (hheads : HeadsRelated R g g) {m m' : Module} {needs : List Need}
    (hsmall : ∀ names ⊆ m.newNames needs, ∀ s x, R (g.small s x) (g.small s (x.receive names).1))
    (hnew : ∀ names ⊆ m.newNames needs, R [] (gatherStmts g [] (newImports (m.imports.missing needs).package names)))
    (h : m.addImports needs = .ok m') : R (m.gather g) (m'.gather g) := by
  obtain ⟨k, -, body, back, rfl, rfl, hback⟩ := addImports_body h
  obtain ⟨hfirst, hrest⟩ := Node.receive_gather hR hheads hsmall (.stmts (m.body.take k)) _ (List.Subset.refl _) []
  obtain ⟨hlast, hrest'⟩ := Node.receive_gather hR hheads hsmall (.stmts (m.body.drop k)) _ hrest []
  have hwhole := hR.append (hR.append hfirst (hnew _ hrest')) hlast
  have hb : gatherStmts g [] back = gatherStmts g [] (receiveStmts (receiveStmts (m.newNames needs) (m.body.take k)).2
      (m.body.drop k)).1 := by
    rcases hback with rfl | rfl
    · rfl
    · exact setApart_gather hg _ _
  unfold Module.gather
  rw [gatherStmts_append, gatherStmts_append, hb, (receiveStmts_split k m.body _).2.2]
  simp only [Node.gather, List.append_nil] at hwhole
  rwa [← gatherStmts_append, List.take_append_drop] at hwhole

/-! ## Imports that go -/

section
variable {α β : Type} {R : List α → List β → Prop} {g : Gather α} {g' : Gather β} {u : Usage}

theorem dropAliases_gather (hR : Piecewise R)
    (hsmall : ∀ s x, R (g.small s x) (((x.dropAliases u s).map (g'.small s)).getD [])) (s : Scope) (is : List Item) :
    R (gatherItems g s is) (gatherItems g' s (is.filterMap (Item.dropAliases u s))) := by
  induction is with
  | nil => exact hR.nil
  | cons i is ih =>
    have happend := hR.append (hsmall s i.stmt) ih
    rw [List.filterMap_cons, Item.dropAliases]
    cases hd : i.stmt.dropAliases u s with
    | none =>
      rw [hd] at happend
      exact happend
    | some x =>
      rw [hd] at happend
      exact happend

theorem Node.removeImports_gather (hR : Piecewise R) (hheads : HeadsRelated R g g')
    (hsmall : ∀ s x, R (g.small s x) (((x.dropAliases u s).map (g'.small s)).getD [])) (n : Node) :
    ∀ s, R (n.gather g s) ((n.removeImports u s).gather g' s) := by
  have hone : ∀ s x, (Node.stmts [x]).gather g' s = (Node.stmt x).gather g' s := fun s x => List.append_nil _
  induction n using Node.induct with
  | line l =>
    intro s
    have hi := dropAliases_gather hR hsmall s l.items
    rw [Node.removeImports, Stmt.removeImports]
    split
    · next he =>
      rw [he] at hi
      exact hi
    · rw [Option.toList_some, hone]
      exact hi
  | inline o is t => exact fun s => dropAliases_gather hR hsmall s is
  | compound cs ih =>
    intro s
    rw [Node.removeImports, Stmt.removeImports, Option.toList_some, hone]
    exact ih s
  | block o i xs f ih => exact ih
  | funcDef h b ih =>
    intro s
    rw [Node.removeImports, Stmt.removeImports, Option.toList_some, hone]
    exact hR.append (hheads.func s h) (ih (h.frame :: s))
  | classDef h b ih =>
    intro s
    rw [Node.removeImports, Stmt.removeImports, Option.toList_some, hone]
    exact hR.append (hheads.cls s h) (ih (h.frame :: s))
  | noClause | noStmt => exact fun _ => hR.nil
  | clause head b cs ihb ihc => exact fun s => hR.append (hR.append (hheads.head s head.header) (ihb s)) (ihc s)
  | next x xs ihx ihxs =>
    intro s
    have hx := ihx s
    rw [Node.removeImports, removeFromStmts]
    rw [Node.removeImports] at hx
    cases hd : x.removeImports u s with
    | none =>
      rw [hd] at hx
      exact hR.append hx (ihxs s)
    | some y =>
      rw [hd, Option.toList_some, hone] at hx
      exact hR.append hx (ihxs s)

end

/-- What decides which imports of a module go. -/
structure Module.Uses (m : Module) (u : Usage) : Prop where
  table : m.scan = .ok u.table
  mentioned : ∃ exported quoted, m.exports = .ok exported ∧ m.quotedNames u.table = .ok quoted ∧ u.mentioned = exported ++ quoted

theorem removeImports_ok {m m' : Module} (h : m.removeImports = .ok m') :
    ∃ u, m.Uses u ∧ m' = { m with body := removeFromStmts u [] m.body } := by
  unfold Module.removeImports at h
  split at h
  · cases h
  · next table hs =>
    split at h
    · cases h
    · next exported he =>
      split at h
      · cases h
      · next quoted hq =>
        cases h
        exact ⟨⟨table, exported ++ quoted⟩, ⟨hs, exported, quoted, he, hq, rfl⟩, rfl⟩

end AttrsUpgrade
