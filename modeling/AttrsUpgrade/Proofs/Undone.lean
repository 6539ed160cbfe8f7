import AttrsUpgrade.Proofs.Filled
import AttrsUpgrade.Proofs.Openings
/-!
# Imports that are added and go again

A run adds the imports that a module asks for and then removes those that nothing uses. Names that an existing import statement
received go without a trace (`Node.removeImports_receive`). New lines go as well, but the statement after them was set apart by an
empty line, and that stays. So of imports that nothing uses an empty line is left if they came in lines of their own, and nothing
otherwise (`addImports_undone`).
-/

namespace AttrsUpgrade

/-! ## What is missing -/

/-- What a module asks for and does not import. -/
def Module.missing (m : Module) : Missing := m.imports.missing m.needs

/-- The names of the imports that are missing. -/
def Missing.names (x : Missing) : List String := (if x.package then [packageName] else []) ++ x.objects

/-- An import from the package that names can be put into. -/
def Small.receives : Small → Bool
  | .importFrom f =>
    match f.imported with
    | .star => false
    | .names _ _ => f.absolute? = some packageName
  | _ => false

/-- Whether a run gives the module new lines of imports. -/
def Module.addsLine (m : Module) : Bool := m.missing.package || !m.missing.objects.isEmpty && !m.smalls.any Small.receives

theorem Small.receive_rest_eq (names : List Alias) (x : Small) : (x.receive names).2 = if x.receives then [] else names := by
  cases x with
  | importFrom f =>
    cases himp : f.imported with
    | star => simp [Small.receive, Small.receives, himp]
    | names parens as =>
      by_cases habs : f.absolute? = some packageName
      · simp [Small.receive, Small.receives, himp, habs]
      · simp [Small.receive, Small.receives, himp, habs]
  | _ => rfl

/-- Names go to one of two halves or are left over. -/
theorem rest_of_halves (first second : Bool) (names : List Alias) :
    (if second then [] else if first then [] else names) = if first || second then [] else names := by
  cases first with
  | true => exact ite_self _
  | false => rfl

theorem receiveItems_rest_eq (s : Scope) (is : List Item) : ∀ names,
    (receiveItems names is).2 = if (gatherItems placedSmalls s is).any (fun y => y.2.receives) then [] else names := by
  induction is with
  | nil => exact fun _ => rfl
  | cons i is ih =>
    intro names
    have hrest : (receiveItems names (i :: is)).2 = (receiveItems (i.stmt.receive names).2 is).2 := rfl
    have hany : (gatherItems placedSmalls s (i :: is)).any (fun y => y.2.receives) =
        (i.stmt.receives || (gatherItems placedSmalls s is).any fun y => y.2.receives) := rfl
    rw [hrest, ih, Small.receive_rest_eq, rest_of_halves, hany]

/-- The names are left over unless some statement receives them. -/
theorem Node.receiveRest_eq (n : Node) : ∀ s names,
    n.receiveRest names = if (n.gather placedSmalls s).any (fun y => y.2.receives) then [] else names := by
  induction n using Node.induct with
  | line l => exact fun s => receiveItems_rest_eq s l.items
  | inline o is t => exact fun s => receiveItems_rest_eq s is
  | compound cs ih | block o i xs f ih => exact ih
  | funcDef h b ih | classDef h b ih => exact fun s => ih (h.frame :: s)
  | noClause | noStmt => exact fun _ _ => rfl
  | clause head b cs ihb ihc =>
    intro s names
    have hany : ((Node.clauses (⟨head, b⟩ :: cs)).gather placedSmalls s).any (fun y => y.2.receives) =
        ((b.gather placedSmalls s).any (fun y => y.2.receives) || (gatherClauses placedSmalls s cs).any fun y => y.2.receives) :=
      List.any_append
    have hfirst : (b.receive names).2 = if (b.gather placedSmalls s).any (fun y => y.2.receives) then [] else names := ihb s names
    rw [hany, ← rest_of_halves, ← hfirst]
    exact ihc s _
  | next x xs ihx ihxs =>
    intro s names
    have hany : ((Node.stmts (x :: xs)).gather placedSmalls s).any (fun y => y.2.receives) =
        ((x.gather placedSmalls s).any (fun y => y.2.receives) || (gatherStmts placedSmalls s xs).any fun y => y.2.receives) :=
      List.any_append
    have hfirst : (x.receive names).2 = if (x.gather placedSmalls s).any (fun y => y.2.receives) then [] else names := ihx s names
    rw [hany, ← rest_of_halves, ← hfirst]
    exact ihxs s _

theorem Node.receiveRest_subset (n : Node) (names : List Alias) : n.receiveRest names ⊆ names := by
  rw [n.receiveRest_eq []]
  split
  · exact List.nil_subset _
  · exact List.Subset.refl _

/-! ## Names that go again -/

/-- Whether all names of an import stay. -/
def Small.isKept (u : Usage) (s : Scope) : Small → Bool
  | .importNames _ as => as.all fun a => !u.drops s removablePackages a
  | .importFrom f =>
    match f.absolute?, f.imported with
    | some source, .names _ as => as.all fun a => !u.drops s (removableNames source) a
    | _, _ => true
  | _ => true

/-- A name that was written anew and goes again. -/
def Usage.Discards (u : Usage) (a : Alias) : Prop := a.comma = none ∧ u.drops [] (removableNames packageName) a = true

section
variable {drop : Alias → Bool} {new as : List Alias}

theorem keepAliases_of_none (h : ∀ a ∈ as, drop a = false) :
    ∀ front, keepAliases drop front as = front ++ as := by
  induction as with
  | nil => simp [keepAliases]
  | cons a as ih =>
    intro front
    rw [List.forall_mem_cons] at h
    rw [keepAliases, h.1, if_neg Bool.false_ne_true, ih h.2, List.append_assoc]
    rfl

/-- Names without commas that go from the front leave the others as they are. -/
theorem keepAliases_of_new (hnew : ∀ a ∈ new, a.comma = none ∧ drop a = true) (has : ∀ a ∈ as, drop a = false) :
    keepAliases drop [] (new ++ as) = as := by
  induction new with
  | nil => exact keepAliases_of_none has []
  | cons a new ih =>
    rw [List.forall_mem_cons] at hnew
    rw [List.cons_append, keepAliases, if_pos hnew.1.2, hnew.1.1]
    exact ih hnew.2

theorem closeAliases_of_new (has : ∀ a ∈ as, drop a = false) (hfilled : as ≠ []) :
    closeAliases drop (new ++ as) as = as := by
  have hlast : (new ++ as).getLast?.any drop = false := by
    rw [List.getLast?_append_of_ne_nil _ hfilled]
    cases hl : as.getLast? with
    | none => rfl
    | some a => exact has a (List.mem_of_getLast? hl)
  rw [closeAliases, hlast, if_neg Bool.false_ne_true]

theorem keepParens_of_new (hnew : ∀ a ∈ new, a.comma = none ∧ drop a = true) (has : ∀ a ∈ as, drop a = false)
    (p : Parens) : keepParens drop (new ++ as) p = p := by
  have hwhile : (new ++ as).takeWhile drop = new := by
    rw [List.takeWhile_append_of_pos fun a ha => (hnew a ha).2]
    cases as with
    | nil => simp
    | cons a as => simp [has a List.mem_cons_self]
  -- the parenthesis would get what is written at the commas of names that go, but new names have none
  have hcommas : new.filterMap Alias.comma = [] := List.filterMap_eq_nil_iff.2 fun a ha => (hnew a ha).1
  rw [keepParens, hwhile, hcommas]
  rfl

end

/-- An import from the package has the names in front of its own, and one from elsewhere has its own. -/
theorem Small.receive_names (names : List Alias) {f : FromImport} {parens : Option Parens} {as : List Alias}
    (h : f.imported = .names parens as) : ((Small.importFrom f).receive names).1 =
      .importFrom { f with imported := .names parens ((if f.absolute? = some packageName then names else []) ++ as) } := by
  simp only [Small.receive, h]
  split
  · rfl
  · rw [List.nil_append, ← h]

variable {u : Usage} {all : List Alias}

/-- An import whose names stay is as it was after names that it received have gone again. -/
theorem Small.dropAliases_receive (hall : ∀ a ∈ all, u.Discards a) {x : Small} {s : Scope} (hx : x.isKept u s = true)
    (htop : x.fromPackage = true → all = [] ∨ s = []) (hf : x.Filled) {names : List Alias} (hn : names ⊆ all) :
    (x.receive names).1.dropAliases u s = some x := by
  cases x with
  | importNames opening as =>
    have hdrop : ∀ a ∈ as, u.drops s removablePackages a = false := by simpa [Small.isKept] using hx
    have hkept : (as.filter fun a => !u.drops s removablePackages a) = as :=
      List.filter_eq_self.2 fun a ha => by simp [hdrop a ha]
    have hclose : closeAliases (u.drops s removablePackages) ([] ++ as) as = as := closeAliases_of_new hdrop hf
    simp only [Small.receive, Small.dropAliases, hkept]
    cases as with
    | nil => exact absurd rfl hf
    | cons => exact congrArg (fun kept => some (Small.importNames opening kept)) hclose
  | importFrom f =>
    cases habs : f.absolute? with
    | none =>
      have hsame : (Small.importFrom f).receive names = (.importFrom f, names) := by
        simp only [Small.receive, habs]
        split <;> rfl
      rw [hsame]
      simp only [Small.dropAliases, habs]
    | some source =>
      cases himp : f.imported with
      | star => simp only [Small.receive, Small.dropAliases, habs, himp]
      | names parens as =>
        have hdrop : ∀ a ∈ as, u.drops s (removableNames source) a = false := by simpa [Small.isKept, habs, himp] using hx
        have hfilled : as ≠ [] := by
          have hf : f.imported.Filled := hf
          rwa [himp] at hf
        -- what it receives goes again
        obtain ⟨new, hnew, hreceive⟩ : ∃ new, (∀ a ∈ new, a.comma = none ∧ u.drops s (removableNames source) a = true) ∧
            ((Small.importFrom f).receive names).1 = .importFrom { f with imported := .names parens (new ++ as) } := by
          refine ⟨_, fun a ha => ?_, Small.receive_names names himp⟩
          split at ha
          · next hpackage =>
            obtain rfl : source = packageName := Option.some.inj (habs.symm.trans hpackage)
            rcases htop (decide_eq_true habs) with hnone | rfl
            · obtain rfl : names = [] := List.subset_nil.1 (hnone ▸ hn)
              cases ha
            · exact hall a (hn ha)
          · cases ha
        have hparens : parens.map (keepParens (u.drops s (removableNames source)) (new ++ as)) = parens := by
          cases parens with
          | none => rfl
          | some p => rw [Option.map_some, keepParens_of_new hnew hdrop]
        have habs' : FromImport.absolute? { f with imported := .names parens (new ++ as) } = some source := habs
        rw [hreceive]
        simp only [Small.dropAliases, habs', keepAliases_of_new hnew hdrop, closeAliases_of_new hdrop hfilled, hparens]
        cases as with
        | nil => exact absurd rfl hfilled
        | cons => rw [← himp]
  | _ => rfl

theorem dropAliases_receiveItems (hall : ∀ a ∈ all, u.Discards a) {is : List Item} {s : Scope}
    (h : ∀ y ∈ gatherItems placedSmalls s is, y.2.isKept u y.1 = true ∧ (y.2.fromPackage = true → all = [] ∨ y.1 = []))
    (hf : ∀ i ∈ is, i.stmt.Filled) : ∀ names ⊆ all, (receiveItems names is).1.filterMap (Item.dropAliases u s) = is := by
  induction is with
  | nil => exact fun _ _ => rfl
  | cons i is ih =>
    intro names hn
    rw [gatherItems, List.flatMap_cons, List.forall_mem_append] at h
    rw [List.forall_mem_cons] at hf
    obtain ⟨hkept, htop⟩ := h.1 (s, i.stmt) (List.mem_singleton_self _)
    have hi : Item.dropAliases u s ⟨(i.stmt.receive names).1, i.semicolon⟩ = some i := by
      rw [Item.dropAliases, Small.dropAliases_receive hall hkept htop hf.1 hn]
      rfl
    have hrest := ih h.2 hf.2 _ (List.Subset.trans (i.stmt.receive_rest names) hn)
    show (⟨(i.stmt.receive names).1, i.semicolon⟩ :: (receiveItems (i.stmt.receive names).2 is).1).filterMap _ = _
    rw [List.filterMap_cons_some hi, hrest]

def Node.Filled : Node → Prop
  | .stmt x => x.Filled
  | .stmts xs => stmtsFilled xs
  | .clauses cs => clausesFilled cs
  | .suite b => b.Filled

/-- The node, a single statement as a list. -/
def Node.listed : Node → Node
  | .stmt x => .stmts [x]
  | n => n

/-- Where the names of imports stay, names that were received at the top level go again and nothing else does. -/
theorem Node.removeImports_receive (hall : ∀ a ∈ all, u.Discards a) (n : Node) : ∀ s, (∀ y ∈ n.gather placedSmalls s,
    y.2.isKept u y.1 = true ∧ (y.2.fromPackage = true → all = [] ∨ y.1 = [])) → n.Filled → ∀ names ⊆ all,
    (n.receive names).removeImports u s = n.listed := by
  induction n using Node.induct with
  | line l =>
    intro s h hf names hn
    have hitems := dropAliases_receiveItems hall h hf.2 names hn
    rw [Node.receive, Stmt.receive, Node.removeImports, Stmt.removeImports, hitems]
    -- a line goes only if none of its items stays
    split
    · next hnil => exact absurd hnil hf.1
    · rfl
  | inline o is t =>
    intro s h hf names hn
    have hitems := dropAliases_receiveItems hall h hf.2 names hn
    rw [Node.receive, Suite.receive, Node.removeImports, Suite.removeImports, hitems]
    rfl
  | compound cs ih =>
    intro s h hf names hn
    have hcs : removeFromClauses u s (receiveClauses names cs).1 = cs := Node.clauses.inj (ih s h hf.2 names hn)
    rw [Node.receive, Stmt.receive, Node.removeImports, Stmt.removeImports, hcs]
    rfl
  | block o i xs f ih =>
    intro s h hf names hn
    have hxs : removeFromStmts u s (receiveStmts names xs).1 = xs := Node.stmts.inj (ih s h hf names hn)
    rw [Node.receive, Suite.receive, Node.removeImports, Suite.removeImports, hxs]
    rfl
  | funcDef head b ih =>
    intro s h hf names hn
    have hb : (b.receive names).1.removeImports u (head.frame :: s) = b := Node.suite.inj (ih _ h hf names hn)
    show Node.stmts [.funcDef head ((b.receive names).1.removeImports u (head.frame :: s))] = _
    rw [hb]
    rfl
  | classDef head b ih =>
    intro s h hf names hn
    have hb : (b.receive names).1.removeImports u (head.frame :: s) = b := Node.suite.inj (ih _ h hf names hn)
    show Node.stmts [.classDef head ((b.receive names).1.removeImports u (head.frame :: s))] = _
    rw [hb]
    rfl
  | noClause | noStmt => exact fun _ _ _ _ _ => rfl
  | clause head b cs ihb ihc =>
    intro s h hf names hn
    have h : ∀ y ∈ b.gather placedSmalls s ++ gatherClauses placedSmalls s cs,
        y.2.isKept u y.1 = true ∧ (y.2.fromPackage = true → all = [] ∨ y.1 = []) := h
    rw [List.forall_mem_append] at h
    have hrest : (b.receive names).2 ⊆ all := List.Subset.trans ((Node.suite b).receiveRest_subset names) hn
    have hb : (b.receive names).1.removeImports u s = b := Node.suite.inj (ihb s h.1 hf.1 names hn)
    have hcs : removeFromClauses u s (receiveClauses (b.receive names).2 cs).1 = cs := Node.clauses.inj (ihc s h.2 hf.2 _ hrest)
    show Node.clauses (⟨head, (b.receive names).1.removeImports u s⟩ ::
      removeFromClauses u s (receiveClauses (b.receive names).2 cs).1) = _
    rw [hb, hcs]
    rfl
  | next x xs ihx ihxs =>
    intro s h hf names hn
    have h : ∀ y ∈ x.gather placedSmalls s ++ gatherStmts placedSmalls s xs,
        y.2.isKept u y.1 = true ∧ (y.2.fromPackage = true → all = [] ∨ y.1 = []) := h
    rw [List.forall_mem_append] at h
    have hrest : (x.receive names).2 ⊆ all := List.Subset.trans ((Node.stmt x).receiveRest_subset names) hn
    have hx : ((x.receive names).1.removeImports u s).toList = [x] := Node.stmts.inj (ihx s h.1 hf.1 names hn)
    have hxs : removeFromStmts u s (receiveStmts (x.receive names).2 xs).1 = xs := Node.stmts.inj (ihxs s h.2 hf.2 _ hrest)
    show Node.stmts (removeFromStmts u s ((x.receive names).1 :: (receiveStmts (x.receive names).2 xs).1)) = _
    rw [removeFromStmts, hxs]
    -- the statement is still there, as a list of one
    cases hr : (x.receive names).1.removeImports u s with
    | none => simp [hr] at hx
    | some y =>
      rw [hr] at hx
      rw [List.singleton_inj.1 hx]
      rfl

theorem removeFromStmts_append (u : Usage) (s : Scope) (xs ys : List Stmt) :
    removeFromStmts u s (xs ++ ys) = removeFromStmts u s xs ++ removeFromStmts u s ys := by
  induction xs with
  | nil => rfl
  | cons x xs ih =>
    rw [List.cons_append, removeFromStmts, removeFromStmts]
    cases x.removeImports u s with
    | none => exact ih
    | some y => exact congrArg (y :: ·) ih

theorem Usage.drops_ofName (u : Usage) (s : Scope) (names : List String) (name : String) :
    u.drops s names (.ofName name) = (names.contains name && !u.inUse s name) := by
  rw [Usage.drops, Alias.path_ofName]
  rfl

/-- New lines of which nothing is in use go as a whole. -/
theorem removeFromStmts_newImports {u : Usage} {package : Bool} {names : List String}
    (hpackage : package = true → u.inUse [] packageName = false)
    (hnames : ∀ name ∈ names, name ∈ removableNames packageName ∧ u.inUse [] name = false) :
    removeFromStmts u [] (newImports package (names.map Alias.ofName)) = [] := by
  have hline : ∀ x : Small, x.dropAliases u [] = none → removeFromStmts u [] [Stmt.ofImport x] = [] := by
    intro x hx
    simp [removeFromStmts, Stmt.ofImport, Stmt.removeImports, Item.dropAliases, hx]
  rw [newImports, removeFromStmts_append, List.append_eq_nil_iff]
  constructor
  · split
    · next hp =>
      refine hline _ ?_
      have hdrop : u.drops [] removablePackages (.ofName packageName) = true := by
        rw [Usage.drops_ofName, hpackage hp]
        rfl
      simp only [Small.dropAliases, List.filter_cons, hdrop, Bool.not_true, Bool.false_eq_true, if_false, List.filter_nil]
    · rfl
  · split
    · rfl
    · refine hline _ ?_
      have hkept : keepAliases (u.drops [] (removableNames packageName)) [] (names.map Alias.ofName) = [] := by
        have hbare := keepAliases_bare (u.drops [] (removableNames packageName)) (names.map Alias.ofName) []
        have hnone : ((names.map Alias.ofName).filter fun a => !u.drops [] (removableNames packageName) a) = [] := by
          rw [List.filter_eq_nil_iff, List.forall_mem_map]
          intro name hname
          simp [Usage.drops_ofName, hnames name hname]
        rw [hnone] at hbare
        exact List.map_eq_nil_iff.1 hbare
      have habs : FromImport.absolute?
          ⟨"from ", "", some ⟨packageName, []⟩, " import ", .names none (names.map Alias.ofName)⟩ = some packageName := rfl
      simp only [Small.dropAliases, habs, hkept]

/-! ## The place of new lines -/

theorem Small.receive_importFrom (names : List Alias) (f : FromImport) :
    ∃ f', ((Small.importFrom f).receive names).1 = .importFrom f' := by
  simp only [Small.receive]
  split
  · exact ⟨f, rfl⟩
  · split
    · exact ⟨_, rfl⟩
    · exact ⟨f, rfl⟩

/-- Names that a statement receives do not show in its kind. -/
theorem Stmt.receive_kind (names : List Alias) (x : Stmt) : (x.receive names).1.isString = x.isString ∧
    (x.receive names).1.isStrict = x.isStrict ∧ (x.receive names).1.hasImport = x.hasImport := by
  cases x with
  | line l =>
    obtain ⟨leading, items, trailing⟩ := l
    have himport := (receiveItems_kind items names).1
    cases items with
    | nil => exact ⟨rfl, rfl, rfl⟩
    | cons i is =>
      cases is with
      | cons j js =>
        refine ⟨?_, ?_, himport⟩
        · simp [Stmt.receive, receiveItems, Stmt.isString]
        · simp [Stmt.receive, receiveItems, Stmt.isStrict]
      | nil =>
        obtain ⟨stmt, semicolon⟩ := i
        cases stmt with
        | importFrom f =>
          obtain ⟨f', hf⟩ := Small.receive_importFrom names f
          simp [Stmt.receive, receiveItems, Stmt.isString, Stmt.isStrict, Stmt.hasImport, Small.isImport, hf]
        | _ => exact ⟨rfl, rfl, himport⟩
  | _ => exact ⟨rfl, rfl, rfl⟩

theorem importPlace_receive (names : List Alias) (xs : List Stmt) : importPlace (receiveStmts names xs).1 = importPlace xs := by
  have hfrom : ∀ (xs : List Stmt) names i place,
      importPlaceFrom i place (receiveStmts names xs).1 = importPlaceFrom i place xs := by
    intro xs
    induction xs with
    | nil => exact fun _ _ _ => rfl
    | cons x xs ih =>
      intro names i place
      obtain ⟨hstring, -, himport⟩ := x.receive_kind names
      simp only [receiveStmts, importPlaceFrom, hstring, himport, ih]
  have hhead : (receiveStmts names xs).1.head?.any Stmt.isStrict = xs.head?.any Stmt.isStrict := by
    cases xs with
    | nil => rfl
    | cons x xs => exact (x.receive_kind names).2.1
  rw [importPlace, hhead, hfrom]
  rfl

theorem Stmt.receive_setLeading (names : List Alias) (lines : List Span) (x : Stmt) :
    (x.setLeading lines).receive names = ((x.receive names).1.setLeading lines, (x.receive names).2) ∧
    (x.receive names).1.leading = x.leading := by
  cases x with
  | line | funcDef | classDef => exact ⟨rfl, rfl⟩
  | compound cs =>
    cases cs with
    | nil => exact ⟨rfl, rfl⟩
    | cons c cs =>
      obtain ⟨head, b⟩ := c
      exact ⟨rfl, rfl⟩

/-- Names are received alike by statements that are set apart. -/
theorem receiveStmts_setApart (names : List Alias) (xs : List Stmt) :
    (receiveStmts names (setApart xs)).1 = setApart (receiveStmts names xs).1 := by
  cases xs with
  | nil => rfl
  | cons x xs =>
    have hset : ∀ lines, receiveStmts names (x.setLeading lines :: xs) =
        ((x.receive names).1.setLeading lines :: (receiveStmts (x.receive names).2 xs).1,
          (receiveStmts (x.receive names).2 xs).2) := by
      intro lines
      rw [receiveStmts, (x.receive_setLeading names lines).1]
    have hleading := (x.receive_setLeading names []).2
    simp only [setApart, receiveStmts, hleading]
    split
    · rw [hset]
    · split
      · rw [hset]
      · rfl

theorem receiveStmts_append (names : List Alias) (xs ys : List Stmt) : (receiveStmts names (xs ++ ys)).1 =
    (receiveStmts names xs).1 ++ (receiveStmts (receiveStmts names xs).2 ys).1 := by
  induction xs generalizing names with
  | nil => rfl
  | cons x xs ih => exact congrArg ((x.receive names).1 :: ·) (ih _)

/-! ## What is left -/

/-- The module with an empty line at the place of the imports, as new lines leave it when they go. -/
def Module.spaced (m : Module) : Module :=
  { m with body := m.body.take (importPlace m.body) ++ setApart (m.body.drop (importPlace m.body)) }

theorem stmtsFilled_setApart {xs : List Stmt} (h : stmtsFilled xs) : stmtsFilled (setApart xs) := by
  cases xs with
  | nil => exact h
  | cons x xs =>
    simp only [setApart]
    split
    · exact ⟨h.1.setLeading _, h.2⟩
    · split
      · exact ⟨h.1.setLeading _, h.2⟩
      · exact h

theorem Module.spaced_filled {m : Module} (h : stmtsFilled m.body) : stmtsFilled m.spaced.body := by
  have hdrop : stmtsFilled (setApart (m.body.drop (importPlace m.body))) :=
    stmtsFilled_setApart (stmtsFilled_iff.2 fun x hx => stmtsFilled_iff.1 h x (List.mem_of_mem_drop hx))
  rw [Module.spaced, stmtsFilled_iff, List.forall_mem_append]
  exact ⟨fun x hx => stmtsFilled_iff.1 h x (List.mem_of_mem_take hx), stmtsFilled_iff.1 hdrop⟩

theorem Module.spaced_gather {m : Module} {α : Type} {g : Gather α} (hg : g.Blind) : m.spaced.gather g = m.gather g := by
  rw [Module.gather, Module.spaced, gatherStmts_append, setApart_gather hg, ← gatherStmts_append, List.take_append_drop]
  rfl

/-- Names that a module is given go to the same statements if an empty line is put at the place of the imports. -/
theorem Module.receive_spaced (m : Module) (names : List Alias) : (receiveStmts names m.spaced.body).1 =
    (receiveStmts names m.body).1.take (importPlace m.body) ++
      setApart ((receiveStmts names m.body).1.drop (importPlace m.body)) := by
  obtain ⟨htake, hdrop, -⟩ := receiveStmts_split (importPlace m.body) m.body names
  rw [Module.spaced, receiveStmts_append, receiveStmts_setApart, htake, hdrop]

/-- The names that were left over for new lines. -/
theorem Module.receive_left (m : Module) (names : List Alias) :
    (receiveStmts names m.body).2 = if m.smalls.any Small.receives then [] else names := by
  have hany : (m.gather placedSmalls).any (fun y => y.2.receives) = m.smalls.any Small.receives := by
    rw [m.smalls_eq, List.any_map]
    rfl
  rw [← hany]
  exact (Node.stmts m.body).receiveRest_eq [] names

theorem newImports_isEmpty (package : Bool) (names : List Alias) :
    (newImports package names).isEmpty = (!package && names.isEmpty) := by
  cases package with
  | true => rfl
  | false => cases names <;> rfl

theorem Module.addsLine_eq (m : Module) : m.addsLine =
    !(newImports m.missing.package (receiveStmts (m.newNames m.needs) m.body).2).isEmpty := by
  have hnames : (m.newNames m.needs).isEmpty = m.missing.objects.isEmpty := List.isEmpty_map
  rw [newImports_isEmpty, Module.receive_left, Module.addsLine]
  cases m.missing.package with
  | true => rfl
  | false =>
    cases m.smalls.any Small.receives with
    | true => simp
    | false => simp [hnames]

/-- The new lines of a module go as a whole if nothing uses them. -/
theorem Module.newLines_undone {m : Module} (hpackage : m.missing.package = true → u.inUse [] packageName = false)
    (hobjects : ∀ name ∈ m.missing.objects, name ∈ removableNames packageName ∧ u.inUse [] name = false) :
    removeFromStmts u [] (newImports m.missing.package (receiveStmts (m.newNames m.needs) m.body).2) = [] := by
  have hleft : (receiveStmts (m.newNames m.needs) m.body).2 =
      (if m.smalls.any Small.receives then [] else m.missing.objects).map Alias.ofName := by
    rw [Module.receive_left]
    split <;> rfl
  rw [hleft]
  refine removeFromStmts_newImports hpackage fun name hname => ?_
  split at hname
  · cases hname
  · exact hobjects name hname

/-- Imports that nothing uses leave an empty line if they came in lines of their own, and nothing otherwise. -/
theorem addImports_undone {m m' : Module} (h : m.addImports m.needs = .ok m')
    (hkept : ∀ y ∈ m.gather placedSmalls, y.2.isKept u y.1 = true ∧
      (y.2.fromPackage = true → m.missing.objects = [] ∨ y.1 = []))
    (hpackage : m.missing.package = true → u.inUse [] packageName = false)
    (hobjects : ∀ name ∈ m.missing.objects, name ∈ removableNames packageName ∧ u.inUse [] name = false)
    (hf : stmtsFilled m.body) :
    { m' with body := removeFromStmts u [] m'.body } = if m.addsLine then m.spaced else m := by
  have hall : ∀ a ∈ m.newNames m.needs, u.Discards a := by
    intro a ha
    obtain ⟨name, hname, rfl⟩ := List.mem_map.1 ha
    refine ⟨rfl, ?_⟩
    simp [Usage.drops_ofName, hobjects name hname]
  have hkept : ∀ y ∈ m.gather placedSmalls, y.2.isKept u y.1 = true ∧
      (y.2.fromPackage = true → m.newNames m.needs = [] ∨ y.1 = []) := by
    intro y hy
    obtain ⟨hk, htop⟩ := hkept y hy
    exact ⟨hk, fun hfrom => (htop hfrom).imp_left fun hnil => List.map_eq_nil_iff.2 hnil⟩
  have hline := m.addsLine_eq
  simp only [Module.addImports] at h
  split at h
  · -- all names were received
    next hempty =>
    cases h
    rw [show m.addsLine = false from hline.trans (congrArg Bool.not hempty), if_neg Bool.false_ne_true]
    have hbody : removeFromStmts u [] (receiveStmts (m.newNames m.needs) m.body).1 = m.body :=
      Node.stmts.inj (Node.removeImports_receive hall (.stmts m.body) [] hkept hf _ (List.Subset.refl _))
    exact congrArg (fun body => { m with body }) hbody
  · next hnonempty =>
    split at h
    · cases h
      rw [show m.addsLine = true from hline.trans (congrArg Bool.not (Bool.eq_false_iff.2 hnonempty)), if_pos rfl]
      have hnew := Module.newLines_undone hpackage hobjects
      -- the rest is as if the module had had the empty line and received the names
      have hblind : placedSmalls.Blind := ⟨fun _ _ _ => rfl, fun _ _ _ => rfl⟩
      have hrest : removeFromStmts u [] (receiveStmts (m.newNames m.needs) m.spaced.body).1 = m.spaced.body := by
        refine Node.stmts.inj (Node.removeImports_receive hall (.stmts m.spaced.body) [] ?_ (Module.spaced_filled hf) _
          (List.Subset.refl _))
        exact fun y hy => hkept y (Module.spaced_gather hblind ▸ hy)
      rw [Module.receive_spaced, removeFromStmts_append] at hrest
      have hbody : removeFromStmts u [] ((receiveStmts (m.newNames m.needs) m.body).1.take (importPlace m.body) ++
          newImports m.missing.package (receiveStmts (m.newNames m.needs) m.body).2 ++
          setApart ((receiveStmts (m.newNames m.needs) m.body).1.drop (importPlace m.body))) = m.spaced.body := by
        rw [removeFromStmts_append, removeFromStmts_append, hnew, List.append_nil, hrest]
      have hplace := importPlace_receive (m.newNames m.needs) m.body
      rw [← hplace] at hbody
      exact congrArg (fun body => { m with body }) hbody
    · cases h

end AttrsUpgrade
