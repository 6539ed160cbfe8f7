import AttrsUpgrade.Proofs.Accesses
/-!
# Modules that begin with imports

In a module that begins with its imports (`Module.Opens`) a run leaves the rest after them alone but for the edits, and puts what
it imports before that rest (`Stages.added_split`). So what is imported at the top is in use if the rest begins a decorator or a
value with it (`Divided.inUse`).
-/

namespace AttrsUpgrade

/-- An import from the package. -/
def Small.fromPackage : Small → Bool
  | .importFrom f => f.absolute? = some packageName
  | _ => false

/-- A module that begins with lines of imports and expressions, an import the last of them. There is no import from the package
after these, and no line that would send new imports elsewhere. -/
structure Module.Opens (m : Module) (front rest : List Stmt) : Prop where
  body : m.body = front ++ rest
  isPrelude : ∀ x ∈ front, x.isPrelude = true
  last : front.getLast?.any Stmt.hasImport = true
  plain : ∀ x ∈ rest, x.isString = false ∧ x.hasImport = false
  package : ∀ y ∈ gatherStmts placedSmalls [] rest, y.2.fromPackage = false
  star : "*" ∉ m.imports.names packageName

/-! ## Edits -/

section
variable {r : Resolver}

theorem itemEdit_prelude {i i' : Item} (h : ItemEdit r i i') (hi : i.stmt.isAssignment = false) : i' = i := by
  rcases h with h | h
  · exact h
  · rw [h.isAssignment] at hi
    cases hi

/-- Imports and expressions are not edited. -/
theorem Edited.prelude {x x' : Stmt} (h : Edited r (.stmt x) (.stmt x')) (hx : x.isPrelude = true) : x' = x := by
  cases h with
  | @line l is hi =>
    have hitems : ∀ {is is' : List Item}, List.Forall₂ (ItemEdit r) is is' →
        (is.all fun i => i.stmt.isPrelude) = true → is' = is := by
      intro is is' h
      induction h with
      | nil => exact fun _ => rfl
      | @cons i i' is is' hi _ ih =>
        intro his
        rw [List.all_cons, Bool.and_eq_true] at his
        have hstmt : i.stmt.isAssignment = false := by
          cases hs : i.stmt with
          | assign | annAssign => simp [hs, Small.isPrelude, Small.isImport] at his
          | _ => rfl
        rw [itemEdit_prelude hi hstmt, ih his.2]
    rw [hitems hi hx]
  | compound | funcDef | classDef => cases hx

theorem Edited.split {front rest ys : List Stmt} (h : Edited r (.stmts (front ++ rest)) (.stmts ys))
    (hfront : ∀ x ∈ front, x.isPrelude = true) : ∃ rest', ys = front ++ rest' ∧ Edited r (.stmts rest) (.stmts rest') := by
  induction front generalizing ys with
  | nil => exact ⟨ys, rfl, h⟩
  | cons x front ih =>
    cases h with
    | next hx hxs =>
      obtain ⟨rest', rfl, hrest⟩ := ih hxs fun y hy => hfront y (List.mem_cons_of_mem x hy)
      exact ⟨rest', by rw [hx.prelude (hfront x List.mem_cons_self)]; rfl, hrest⟩

/-- No edit makes a line a string or gives it an import. -/
theorem Edited.plain {x x' : Stmt} (h : Edited r (.stmt x) (.stmt x')) (hx : x.isString = false ∧ x.hasImport = false) :
    x'.isString = false ∧ x'.hasImport = false := by
  have hassign : ∀ {y : Small}, y.isAssignment = true → y.isImport = false := by
    intro y hy
    cases y with
    | assign | annAssign => rfl
    | _ => cases hy
  cases h with
  | @line l is hi =>
    obtain ⟨leading, items, trailing⟩ := l
    constructor
    · cases hi with
      | nil => rfl
      | @cons i i' is is' hi his =>
        rcases hi with rfl | hi
        · cases his with
          | nil => exact hx.1
          | cons =>
            obtain ⟨y, semicolon⟩ := i'
            cases y <;> rfl
        · have hnew := hi.assigns
          obtain ⟨y, semicolon⟩ := i'
          cases y with
          | assign | annAssign => rfl
          | _ => cases hnew
    · have hany : ∀ {is is' : List Item}, List.Forall₂ (ItemEdit r) is is' → (is.any fun i => i.stmt.isImport) = false →
          (is'.any fun i => i.stmt.isImport) = false := by
        intro is is' h
        induction h with
        | nil => exact fun h => h
        | @cons i i' is is' hi _ ih =>
          intro his
          rw [List.any_cons, Bool.or_eq_false_iff] at his ⊢
          rcases hi with rfl | hi
          · exact ⟨his.1, ih his.2⟩
          · exact ⟨hassign hi.assigns, ih his.2⟩
      exact hany hi hx.2
  | compound | funcDef | classDef => exact ⟨rfl, rfl⟩

theorem Edited.plain_stmts {xs ys : List Stmt} (h : Edited r (.stmts xs) (.stmts ys))
    (hx : ∀ x ∈ xs, x.isString = false ∧ x.hasImport = false) : ∀ x ∈ ys, x.isString = false ∧ x.hasImport = false := by
  induction xs generalizing ys with
  | nil =>
    cases h
    exact fun _ hx => nomatch hx
  | cons x xs ih =>
    cases h with
    | @next _ y _ ys hy hys =>
      intro z hz
      rcases List.mem_cons.1 hz with rfl | hz
      · exact hy.plain (hx x List.mem_cons_self)
      · exact ih hys (fun y hy => hx y (List.mem_cons_of_mem x hy)) z hz

/-- No edit imports from the package. -/
theorem Edited.package {n n' : Node} (h : Edited r n n') {s : Scope}
    (hn : ∀ y ∈ n.gather placedSmalls s, y.2.fromPackage = false) : ∀ y ∈ n'.gather placedSmalls s, y.2.fromPackage = false := by
  have hR : Piecewise fun xs ys : List (Scope × Small) => ∀ y ∈ ys, y ∈ xs ∨ y.2.isAssignment = true := by
    refine ⟨fun _ hy => (nomatch hy), fun h h' y hy => ?_⟩
    rcases List.mem_append.1 hy with hy | hy
    · exact (h y hy).imp_left (List.mem_append_left _)
    · exact (h' y hy).imp_left (List.mem_append_right _)
  have hall : ∀ y ∈ n'.gather placedSmalls s, y ∈ n.gather placedSmalls s ∨ y.2.isAssignment = true := by
    refine Edited.gather (P := fun _ _ => True) hR ⟨?_, ?_, ?_, ?_⟩ h s fun _ _ => trivial
    · rintro s i i' - (rfl | hi) y hy
      · exact .inl hy
      · cases List.mem_singleton.1 hy
        exact .inr hi.assigns
    · exact fun _ _ _ _ _ hy => nomatch hy
    · exact fun _ _ _ _ _ hy => nomatch hy
    · exact fun _ _ _ hy => nomatch hy
  intro y hy
  rcases hall y hy with hy | hy
  · exact hn y hy
  · cases hs : y.2 with
    | importFrom f => simp [hs, Small.isAssignment] at hy
    | _ => rfl

end

/-! ## New imports -/

theorem Small.receive_nil (x : Small) : x.receive [] = (x, []) := by
  cases x with
  | importFrom f =>
    obtain ⟨opening, dots, source, mid, imported⟩ := f
    cases imported with
    | star => rfl
    | names parens as =>
      simp only [Small.receive]
      split <;> rfl
  | _ => rfl

theorem Small.receive_kind (names : List Alias) (x : Small) :
    (x.receive names).1.isImport = x.isImport ∧ (x.receive names).1.isPrelude = x.isPrelude := by
  cases x with
  | importFrom f =>
    simp only [Small.receive]
    split
    · exact ⟨rfl, rfl⟩
    · split <;> exact ⟨rfl, rfl⟩
  | _ => exact ⟨rfl, rfl⟩

theorem receiveItems_kind (is : List Item) : ∀ names,
    ((receiveItems names is).1.any fun i => i.stmt.isImport) = (is.any fun i => i.stmt.isImport) ∧
    ((receiveItems names is).1.all fun i => i.stmt.isPrelude) = is.all fun i => i.stmt.isPrelude := by
  induction is with
  | nil => exact fun _ => ⟨rfl, rfl⟩
  | cons i is ih =>
    intro names
    obtain ⟨himport, hprelude⟩ := ih (i.stmt.receive names).2
    obtain ⟨himport', hprelude'⟩ := i.stmt.receive_kind names
    rw [receiveItems, List.any_cons, List.any_cons, List.all_cons, List.all_cons, himport, hprelude, himport', hprelude']
    exact ⟨rfl, rfl⟩

/-- Names that are received change neither the kind of a line nor that of the last one. -/
theorem receiveStmts_prelude {xs : List Stmt} (hx : ∀ x ∈ xs, x.isPrelude = true) : ∀ names,
    (∀ x ∈ (receiveStmts names xs).1, x.isPrelude = true) ∧ (receiveStmts names xs).1.length = xs.length ∧
    (receiveStmts names xs).1.getLast?.any Stmt.hasImport = xs.getLast?.any Stmt.hasImport := by
  induction xs with
  | nil => exact fun _ => ⟨fun _ hx => (nomatch hx), rfl, rfl⟩
  | cons x xs ih =>
    intro names
    obtain ⟨hprelude, hlength, hlast⟩ := ih (fun y hy => hx y (List.mem_cons_of_mem x hy)) (x.receive names).2
    have hline := hx x List.mem_cons_self
    cases x with
    | line l =>
      obtain ⟨himport, hkind⟩ := receiveItems_kind l.items names
      refine ⟨?_, congrArg (· + 1) hlength, ?_⟩
      · intro y hy
        rcases List.mem_cons.1 hy with rfl | hy
        · exact hkind.trans hline
        · exact hprelude y hy
      · cases xs with
        | nil => exact himport
        | cons y ys =>
          simp only [receiveStmts, List.getLast?_cons_cons] at hlast ⊢
          exact hlast
    | _ => cases hline

theorem importPlaceFrom_append (xs ys : List Stmt) : ∀ i place,
    importPlaceFrom i place (xs ++ ys) = importPlaceFrom (i + xs.length) (importPlaceFrom i place xs) ys := by
  induction xs with
  | nil => exact fun _ _ => rfl
  | cons x xs ih =>
    intro i place
    rw [List.cons_append, importPlaceFrom, ih, importPlaceFrom, List.length_cons, Nat.add_right_comm, Nat.add_assoc]

theorem importPlaceFrom_plain {xs : List Stmt} (hx : ∀ x ∈ xs, x.isString = false ∧ x.hasImport = false) : ∀ i place,
    importPlaceFrom i place xs = place := by
  induction xs with
  | nil => exact fun _ _ => rfl
  | cons x xs ih =>
    intro i place
    obtain ⟨hstring, himport⟩ := hx x List.mem_cons_self
    rw [importPlaceFrom, hstring, himport]
    exact ih (fun y hy => hx y (List.mem_cons_of_mem x hy)) _ _

theorem Stmt.isString_of_hasImport {x : Stmt} (h : x.hasImport = true) : x.isString = false := by
  unfold Stmt.isString
  split
  · simp [Stmt.hasImport, Small.isImport] at h
  · rfl

/-- New imports follow the last line with an import. -/
theorem importPlace_opening {front rest : List Stmt} (hlast : front.getLast?.any Stmt.hasImport = true)
    (hrest : ∀ x ∈ rest, x.isString = false ∧ x.hasImport = false) : importPlace (front ++ rest) = front.length := by
  obtain ⟨x, hx, himport⟩ := (Option.any_eq_true _ _).1 hlast
  obtain ⟨init, rfl⟩ := List.getLast?_eq_some_iff.1 hx
  rw [importPlace, importPlaceFrom_append, importPlaceFrom_plain hrest, importPlaceFrom_append, importPlaceFrom, importPlaceFrom,
    Stmt.isString_of_hasImport himport, himport]
  simp

/-- Where nothing is imported from the package, nothing is received. -/
theorem receiveItems_of_none {s : Scope} {is : List Item} (h : ∀ y ∈ gatherItems placedSmalls s is, y.2.fromPackage = false)
    (names : List Alias) : receiveItems names is = (is, names) := by
  induction is with
  | nil => rfl
  | cons i is ih =>
    rw [gatherItems, List.flatMap_cons, List.forall_mem_append] at h
    have hfirst : i.stmt.receive names = (i.stmt, names) := by
      have hi := h.1 (s, i.stmt) (List.mem_singleton_self _)
      cases hs : i.stmt with
      | importFrom f =>
        rw [hs] at hi
        simp only [Small.receive]
        split
        · rfl
        · rw [if_neg (of_decide_eq_false hi)]
      | _ => rfl
    rw [receiveItems, hfirst]
    simp only [ih h.2]

theorem Node.receive_of_none (n : Node) : ∀ s, (∀ y ∈ n.gather placedSmalls s, y.2.fromPackage = false) →
    ∀ names, n.receive names = n ∧ n.receiveRest names = names := by
  induction n using Node.induct with
  | line l =>
    intro s h names
    have hitems : receiveItems names l.items = (l.items, names) := receiveItems_of_none h names
    simp only [Node.receive, Node.receiveRest, Stmt.receive, hitems, and_self]
  | inline o is t =>
    intro s h names
    have hitems : receiveItems names is = (is, names) := receiveItems_of_none h names
    simp only [Node.receive, Node.receiveRest, Suite.receive, hitems, and_self]
  | compound cs ih =>
    intro s h names
    obtain ⟨hcs, hrest⟩ := ih s h names
    simp only [Node.receive, Node.receiveRest, Stmt.receive, Node.clauses.injEq] at hcs hrest ⊢
    rw [hcs, hrest]
    exact ⟨rfl, rfl⟩
  | block o i xs f ih =>
    intro s h names
    obtain ⟨hxs, hrest⟩ := ih s h names
    simp only [Node.receive, Node.receiveRest, Suite.receive, Node.stmts.injEq] at hxs hrest ⊢
    rw [hxs, hrest]
    exact ⟨rfl, rfl⟩
  | funcDef head b ih =>
    intro s h names
    obtain ⟨hb, hrest⟩ := ih (head.frame :: s) h names
    simp only [Node.receive, Node.receiveRest, Stmt.receive, Node.suite.injEq] at hb hrest ⊢
    rw [hb, hrest]
    exact ⟨rfl, rfl⟩
  | classDef head b ih =>
    intro s h names
    obtain ⟨hb, hrest⟩ := ih (head.frame :: s) h names
    simp only [Node.receive, Node.receiveRest, Stmt.receive, Node.suite.injEq] at hb hrest ⊢
    rw [hb, hrest]
    exact ⟨rfl, rfl⟩
  | noClause | noStmt => exact fun _ _ _ => ⟨rfl, rfl⟩
  | clause head b cs ihb ihc =>
    intro s h names
    have h : ∀ y ∈ b.gather placedSmalls s ++ gatherClauses placedSmalls s cs, y.2.fromPackage = false := h
    rw [List.forall_mem_append] at h
    obtain ⟨hb, hrest⟩ := ihb s h.1 names
    obtain ⟨hcs, hrest'⟩ := ihc s h.2 names
    simp only [Node.receive, Node.receiveRest, receiveClauses, Clause.receive, Node.suite.injEq, Node.clauses.injEq]
      at hb hrest hcs hrest' ⊢
    rw [hb, hrest, hcs, hrest']
    exact ⟨rfl, rfl⟩
  | next x xs ihx ihxs =>
    intro s h names
    have h : ∀ y ∈ x.gather placedSmalls s ++ gatherStmts placedSmalls s xs, y.2.fromPackage = false := h
    rw [List.forall_mem_append] at h
    obtain ⟨hx, hrest⟩ := ihx s h.1 names
    obtain ⟨hxs, hrest'⟩ := ihxs s h.2 names
    simp only [Node.receive, Node.receiveRest, receiveStmts, Node.stmt.injEq, Node.stmts.injEq] at hx hrest hxs hrest' ⊢
    rw [hx, hrest, hxs, hrest']
    exact ⟨rfl, rfl⟩

/-- Names are received by an import from the package or left over. -/
theorem Small.receive_or_rest {names : List Alias} {a : Alias} (h : a ∈ names) (x : Small) (s : Scope) :
    a ∈ (x.receive names).2 ∨ ⟨s, some packageName, a.bare⟩ ∈ ((x.receive names).1.steps s).flatMap Step.bindings := by
  cases x with
  | importFrom f =>
    simp only [Small.receive]
    split
    · exact .inl h
    · next parens as himp =>
      split
      · next habs =>
        have ho : FromImport.origin { f with imported := .names parens (names ++ as) } = packageName :=
          FromImport.origin_of_absolute habs
        refine .inr ?_
        rw [Small.steps, importStep_bindings, ho]
        exact mem_bindAll.2 ⟨a, List.mem_append_left _ h, rfl⟩
      · exact .inl h
  | _ => exact .inl h

theorem receiveItems_or_rest {a : Alias} (s : Scope) (is : List Item) : ∀ names, a ∈ names →
    a ∈ (receiveItems names is).2 ∨
      ⟨s, some packageName, a.bare⟩ ∈ (gatherItems stepping s (receiveItems names is).1).flatMap Step.bindings := by
  induction is with
  | nil => exact fun _ h => .inl h
  | cons i is ih =>
    intro names h
    rw [receiveItems, gatherItems, List.flatMap_cons, List.flatMap_append, List.mem_append]
    rcases i.stmt.receive_or_rest h s with h | h
    · exact (ih _ h).imp_right .inr
    · exact .inr (.inl h)

/-- In a whole node, too: the names go to some import from the package, or they are left over. -/
theorem Node.receive_or_rest {a : Alias} (n : Node) : ∀ names s, a ∈ names → a ∈ n.receiveRest names ∨
    ∃ s', ⟨s', some packageName, a.bare⟩ ∈ ((n.receive names).gather stepping s).flatMap Step.bindings := by
  have hitems : ∀ is names s, a ∈ names → a ∈ (receiveItems names is).2 ∨
      ∃ s', ⟨s', some packageName, a.bare⟩ ∈ (gatherItems stepping s (receiveItems names is).1).flatMap Step.bindings :=
    fun is names s h => (receiveItems_or_rest s is names h).imp_right fun h => ⟨s, h⟩
  induction n using Node.induct with
  | line l => exact hitems l.items
  | inline o is t => exact hitems is
  | compound cs ih | block o i xs f ih => exact ih
  | funcDef h b ih | classDef h b ih =>
    intro names s ha
    refine (ih names (h.frame :: s) ha).imp_right fun ⟨s', hs'⟩ => ⟨s', ?_⟩
    exact List.flatMap_append ▸ List.mem_append_right _ hs'
  | noClause | noStmt => exact fun _ _ ha => .inl ha
  | clause head b cs ihb ihc =>
    intro names s ha
    rcases ihb names s ha with hrest | ⟨s', hs'⟩
    · refine (ihc _ s hrest).imp_right fun ⟨s', hs'⟩ => ⟨s', ?_⟩
      exact List.flatMap_append ▸ List.mem_append_right _ hs'
    · refine .inr ⟨s', ?_⟩
      exact List.flatMap_append ▸ List.mem_append_left _ (List.flatMap_append ▸ List.mem_append_right _ hs')
  | next x xs ihx ihxs =>
    intro names s ha
    rcases ihx names s ha with hrest | ⟨s', hs'⟩
    · refine (ihxs _ s hrest).imp_right fun ⟨s', hs'⟩ => ⟨s', ?_⟩
      exact List.flatMap_append ▸ List.mem_append_right _ hs'
    · exact .inr ⟨s', List.flatMap_append ▸ List.mem_append_left _ hs'⟩

theorem newImports_prelude (package : Bool) (names : List Alias) : ∀ x ∈ newImports package names, x.isPrelude = true := by
  intro x hx
  unfold newImports at hx
  rcases List.mem_append.1 hx with hx | hx
  · split at hx
    · rw [List.mem_singleton.1 hx]
      rfl
    · cases hx
  · split at hx
    · cases hx
    · rw [List.mem_singleton.1 hx]
      rfl

/-- What the import statements among the statements of a module bind. -/
def stmtBindings (xs : List Stmt) : List Binding := (gatherStmts stepping [] xs).flatMap Step.bindings

theorem stmtBindings_append (xs ys : List Stmt) : stmtBindings (xs ++ ys) = stmtBindings xs ++ stmtBindings ys := by
  rw [stmtBindings, gatherStmts_append, List.flatMap_append]
  rfl

theorem Module.bindings_append {m : Module} {xs ys : List Stmt} (h : m.body = xs ++ ys) :
    m.bindings = stmtBindings xs ++ stmtBindings ys := by
  rw [← stmtBindings_append, ← h]
  rfl

theorem Small.bindings_scope {x : Small} {s : Scope} {b : Binding} (h : b ∈ (x.steps s).flatMap Step.bindings) : b.scope = s := by
  have himport : ∀ {origin as}, b ∈ (importStep (bindAll s origin as)).flatMap Step.bindings → b.scope = s := by
    intro origin as hb
    rw [importStep_bindings] at hb
    obtain ⟨a, -, rfl⟩ := mem_bindAll.1 hb
    rfl
  cases x with
  | importNames o as => exact himport h
  | importFrom f => exact himport h
  | assign | annAssign | augAssign =>
    rw [Small.steps, storeStep_bindings] at h
    cases h
  | declare reach o names => simp [Small.steps, Step.bindings] at h
  | expr | plain => cases h

theorem prelude_scope {xs : List Stmt} (hx : ∀ x ∈ xs, x.isPrelude = true) {b : Binding}
    (hb : b ∈ stmtBindings xs) : b.scope = [] := by
  induction xs with
  | nil => cases hb
  | cons x xs ih =>
    rw [stmtBindings, gatherStmts, List.flatMap_append, List.mem_append] at hb
    rcases hb with hb | hb
    · have hline := hx x List.mem_cons_self
      cases x with
      | line l =>
        have hb : b ∈ (gatherItems stepping [] l.items).flatMap Step.bindings := hb
        rw [gatherItems, List.flatMap_assoc] at hb
        obtain ⟨i, -, hb⟩ := List.mem_flatMap.1 hb
        exact Small.bindings_scope hb
      | _ => cases hline
    · exact ih (fun y hy => hx y (List.mem_cons_of_mem x hy)) hb

/-- The lines at the top of a module after imports were added. -/
def Module.addedFront (m : Module) (front : List Stmt) : List Stmt :=
  (receiveStmts (m.newNames m.needs) front).1 ++
    newImports (m.imports.missing m.needs).package (receiveStmts (m.newNames m.needs) front).2

theorem Module.addedFront_prelude (m : Module) {front : List Stmt} (h : ∀ x ∈ front, x.isPrelude = true) :
    ∀ x ∈ m.addedFront front, x.isPrelude = true := by
  intro x hx
  rcases List.mem_append.1 hx with hx | hx
  · exact (receiveStmts_prelude h _).1 x hx
  · exact newImports_prelude _ _ x hx

section
variable (m : Module) {front : List Stmt} {b : Binding}

/-- What was imported at the top still is. -/
theorem Module.addedFront_kept (h : b ∈ stmtBindings front) : b ∈ stmtBindings (m.addedFront front) := by
  have hgrow := (Node.receive_gather (R := StepsGrow fun _ => True) StepsGrow.piecewise (.of_refl .refl stepping)
    (fun names _ s x => x.receive_steps (fun _ _ _ => trivial) s) (.stmts front) (m.newNames m.needs) (List.Subset.refl _) []).1
  rw [Module.addedFront, stmtBindings_append]
  exact List.mem_append_left _ (hgrow.kept.subset h)

/-- New names are imported at the top. -/
theorem Module.addedFront_object (hx : ∀ x ∈ front, x.isPrelude = true) {name : String}
    (h : name ∈ (m.imports.missing m.needs).objects) :
    ⟨[], some packageName, .ofName name⟩ ∈ stmtBindings (m.addedFront front) := by
  have hnew : Alias.ofName name ∈ m.newNames m.needs := List.mem_map_of_mem h
  rw [Module.addedFront, stmtBindings_append, List.mem_append]
  rcases Node.receive_or_rest (.stmts front) _ [] hnew with h | ⟨s, h⟩
  · refine .inr ?_
    rw [stmtBindings, newImports_steps, List.flatMap_append, importStep_bindings]
    exact List.mem_append_right _ (mem_bindAll.2 ⟨_, h, rfl⟩)
  · have hs : s = [] := prelude_scope (receiveStmts_prelude hx _).1 h
    exact .inl (hs ▸ h)

theorem Module.addedFront_package (h : (m.imports.missing m.needs).package = true) :
    ⟨[], none, .ofName packageName⟩ ∈ stmtBindings (m.addedFront front) := by
  rw [Module.addedFront, stmtBindings_append, stmtBindings, stmtBindings, newImports_steps, if_pos h, List.flatMap_append]
  exact List.mem_append_right _ (List.mem_append_left _ (List.mem_singleton_self _))

end

theorem addImports_opening {m m' : Module} (h : m.addImports m.needs = .ok m') {front rest : List Stmt}
    (hbody : m.body = front ++ rest) (hfront : ∀ x ∈ front, x.isPrelude = true) (hlast : front.getLast?.any Stmt.hasImport = true)
    (hrest : ∀ x ∈ rest, x.isString = false ∧ x.hasImport = false)
    (hpackage : ∀ y ∈ gatherStmts placedSmalls [] rest, y.2.fromPackage = false) :
    m'.body = m.addedFront front ++ rest ∨ m'.body = m.addedFront front ++ setApart rest := by
  have hnames : ∀ names, (receiveStmts names rest).1 = rest ∧ (receiveStmts names rest).2 = names := by
    intro names
    obtain ⟨hreceived, hleft⟩ := Node.receive_of_none (.stmts rest) [] hpackage names
    exact ⟨Node.stmts.inj hreceived, hleft⟩
  obtain ⟨hprelude, hlength, hlast'⟩ := receiveStmts_prelude hfront (m.newNames m.needs)
  obtain ⟨htake, hdrop, hleft⟩ := receiveStmts_split front.length m.body (m.newNames m.needs)
  rw [hbody, List.take_left, List.drop_left] at hdrop hleft
  rw [hbody, List.take_left] at htake
  rw [(hnames _).1] at hdrop
  rw [(hnames _).2] at hleft
  have hreceived : (receiveStmts (m.newNames m.needs) (front ++ rest)).1 =
      (receiveStmts (m.newNames m.needs) front).1 ++ rest := by
    rw [← List.take_append_drop front.length (receiveStmts (m.newNames m.needs) (front ++ rest)).1, htake, hdrop]
  have hplace : importPlace ((receiveStmts (m.newNames m.needs) front).1 ++ rest) =
      (receiveStmts (m.newNames m.needs) front).1.length :=
    importPlace_opening (hlast'.trans hlast) hrest
  simp only [Module.addImports, hbody] at h
  simp only [Module.newNames] at hreceived hleft hplace
  rw [hreceived, hleft] at h
  split at h
  · next hnew =>
    cases h
    left
    rw [Module.addedFront, Module.newNames, List.isEmpty_iff.1 hnew, List.append_nil]
  · split at h
    · cases h
      right
      rw [hplace, List.take_left, List.drop_left]
      rfl
    · cases h

/-- The statements at the top and the rest, before and after imports were added. -/
structure Divided (visited added : Module) (front rest : List Stmt) : Prop where
  visited_eq : visited.body = front ++ rest
  added_eq : added.body = visited.addedFront front ++ rest ∨ added.body = visited.addedFront front ++ setApart rest

/-- New imports stand before the rest of a module, which is only edited. -/
theorem Stages.added_split {r : Resolver} {m visited added out : Module} {u : Usage} (h : Stages r m visited added out u)
    {front rest : List Stmt} (ho : m.Opens front rest) :
    ∃ rest', Edited r (.stmts rest) (.stmts rest') ∧ Divided visited added front rest' := by
  have hedited := h.edited
  rw [ho.body] at hedited
  obtain ⟨rest', hbody, hrest⟩ := hedited.split ho.isPrelude
  refine ⟨rest', hrest, hbody, ?_⟩
  exact addImports_opening h.added_ok hbody ho.isPrelude ho.last (hrest.plain_stmts ho.plain) (hrest.package ho.package)

/-! ## Scanning -/

theorem prelude_placing {xs : List Stmt} (hx : ∀ x ∈ xs, x.isPrelude = true) : gatherStmts placing [] xs = [] := by
  induction xs with
  | nil => rfl
  | cons x xs ih =>
    rw [gatherStmts, ih fun y hy => hx y (List.mem_cons_of_mem x hy), List.append_nil]
    have hline := hx x List.mem_cons_self
    cases x with
    | line l =>
      refine List.flatMap_eq_nil_iff.2 fun i hi => ?_
      have hkind := List.all_eq_true.1 hline i hi
      show i.stmt.assigned?.toList.map (Prod.mk []) = []
      cases hs : i.stmt with
      | assign | annAssign => simp [hs, Small.isPrelude, Small.isImport] at hkind
      | _ => rfl
    | _ => cases hline

theorem scanStmts_append (onText : Place → String → Table → Table) (p : Place) (xs ys : List Stmt) : ∀ t,
    scanStmts onText p (xs ++ ys) t = scanStmts onText p ys (scanStmts onText p xs t) := by
  induction xs with
  | nil => exact fun _ => rfl
  | cons x xs ih => exact fun t => ih _

/-- Empty lines do not matter. -/
theorem scanStmts_setApart (onText : Place → String → Table → Table) (p : Place) (xs : List Stmt) (t : Table) :
    scanStmts onText p (setApart xs) t = scanStmts onText p xs t := by
  have hstmt : ∀ x lines, scanStmt onText p (Stmt.setLeading lines x) t = scanStmt onText p x t := by
    intro x lines
    cases x with
    | line | funcDef | classDef => rfl
    | compound cs =>
      cases cs with
      | nil => rfl
      | cons c cs =>
        obtain ⟨head, b⟩ := c
        rfl
  cases xs with
  | nil => rfl
  | cons x xs =>
    have hx : ∀ lines, scanStmts onText p (x.setLeading lines :: xs) t = scanStmts onText p (x :: xs) t := by
      intro lines
      rw [scanStmts, hstmt, scanStmts]
    simp only [setApart]
    split
    · exact hx _
    · split
      · exact hx _
      · rfl

namespace Divided
variable {visited added : Module} {front rest : List Stmt} (h : Divided visited added front rest)
include h

theorem gather {α : Type} {g : Gather α} (hg : g.Blind) :
    added.gather g = gatherStmts g [] (visited.addedFront front) ++ gatherStmts g [] rest := by
  rcases h.added_eq with hbody | hbody
  · rw [Module.gather, hbody, gatherStmts_append]
  · rw [Module.gather, hbody, gatherStmts_append, setApart_gather hg]

theorem bindings : added.bindings = stmtBindings (visited.addedFront front) ++ stmtBindings rest := by
  rw [Module.bindings, Module.steps, h.gather stepping_blind, List.flatMap_append]
  rfl

theorem table : added.table = (Node.stmts rest).scan scanHintText (.of [])
    ((Node.stmts (visited.addedFront front)).scan scanHintText (.of []) (.empty added.sites)) := by
  rcases h.added_eq with hbody | hbody
  · rw [Module.table, hbody, scanStmts_append]
    rfl
  · rw [Module.table, hbody, scanStmts_append, scanStmts_setApart]
    rfl

/-- A name that is imported at the top and used by what decorates something or is assigned is in use. -/
theorem inUse {N : Effect → Prop} (hfront : ∀ x ∈ front, x.isPrelude = true) (hq : added.Quiet N) {b : Binding}
    (hb : b ∈ stmtBindings (visited.addedFront front)) {name : String} (hname : name ∈ b.imported.bound)
    (hloud : ¬N (.loud name)) (htop : ∀ a ∈ added.table.assignments, a.name = name → a.scope = []) {s : Scope} {e : Expr}
    (he : (s, e) ∈ added.gather placing) {paths : List String} (hpaths : e.headPaths? = some paths)
    (haccessed : ∀ x : Access, x.scope = s → x.paths = paths → added.table.accessed x = name) :
    added.table.importInUse [] name = true := by
  have htexts := scanHintText_quiet N
  have hprelude := visited.addedFront_prelude hfront
  have hz : ∀ z ∈ added.gather listening, z.Quiet N := hq
  rw [h.gather ⟨fun _ _ _ => rfl, fun _ _ _ => rfl⟩, List.forall_mem_append] at hz
  rw [h.gather ⟨fun _ _ _ => rfl, fun _ _ _ => rfl⟩, prelude_placing hprelude, List.nil_append] at he
  -- the table between the top and the rest
  have hempty : (Table.empty added.sites).Tidy N := fun _ hr => (nomatch hr)
  have hgoes := Node.scan_scans htexts (.stmts (visited.addedFront front)) [] rfl hz.1 _ hempty
  have hpast := scanPrelude_past htexts _ hprelude hz.1 (.empty added.sites) (fun _ ha => (nomatch ha)) hempty
  have htable := h.table
  obtain ⟨t, ht⟩ : ∃ t, (Node.stmts (visited.addedFront front)).scan scanHintText (.of [])
      (.empty added.sites) = t := ⟨_, rfl⟩
  have hpast : t.Past N := by
    rw [← ht]
    exact hpast
  rw [ht] at hgoes htable
  have hgoes' := Node.scan_scans htexts (.stmts rest) [] rfl hz.2 t hgoes.tidy
  rw [← htable] at hgoes'
  -- the assignment
  obtain ⟨bs, hx, -, hbind⟩ := exists_bind_of_binding hb hname
  rw [prelude_scope hprelude hb] at hbind
  obtain ⟨a, ha, hsource⟩ := hgoes.made name _ (List.mem_flatMap.2 ⟨_, hx, hbind⟩)
  obtain ⟨ha, hown⟩ := List.mem_filter.1 ha
  -- the use
  obtain ⟨x, hx, hscope, hxpaths, htime⟩ := Node.scan_reaches htexts (.stmts rest) [] rfl hz.2 (s, e) he hpaths t hgoes.tidy
  rw [← htable] at hx
  refine Table.importInUse_of htop (List.mem_filter.2 ⟨hgoes'.kept ha, hown⟩) (by rw [hsource]; rfl) hx
    (haccessed x hscope hxpaths) fun hs => ?_
  obtain ⟨hnamed, hatop⟩ := of_decide_eq_true hown
  have hbefore := hpast a ha hatop (hnamed ▸ hloud)
  rw [← hscope, hs] at htime
  exact Nat.lt_of_lt_of_le hbefore htime

end Divided

end AttrsUpgrade
