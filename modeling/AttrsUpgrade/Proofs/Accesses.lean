import AttrsUpgrade.Proofs.Needs
/-!
# Uses of names and their times

Whatever decorates something or is assigned, and begins with a name, is noted as a use of that name in the scope it stands in, and
not before the scan came to it (`Node.scan_reaches`). Imports at the top of a module are over before the rest of it is scanned
(`scanPrelude_past`). Hence an import at the top is in use if the rest uses its name (`Table.importInUse_of`).
-/

namespace AttrsUpgrade

open Table

/-! ## Uses -/

/-- A step of the scan notes a use in the scope `s`, at a time that is not before its beginning. -/
def Reaches (N : Effect → Prop) (s : Scope) (paths : List String) (f : Table → Table) : Prop :=
  ∀ t, t.Tidy N → ∃ x ∈ (f t).accesses, x.scope = s ∧ x.paths = paths ∧ t.clock s ≤ x.time

namespace Reaches
variable {N : Effect → Prop} {bs : List (Bind (Option ImportSource))} {s : Scope} {paths : List String}
variable {f g : Table → Table}

theorem after (hg : Reaches N s paths g) (hf : Scans N bs f) : Reaches N s paths fun t => g (f t) := by
  intro t ht
  have hgoes := hf t ht
  obtain ⟨x, hx, hscope, hpaths, htime⟩ := hg (f t) hgoes.tidy
  exact ⟨x, hx, hscope, hpaths, Nat.le_trans (hgoes.clock s) htime⟩

/-- What comes later may depend on the table before. -/
theorem before {g : Table → Table → Table} (hf : Reaches N s paths f) (hf' : Scans N bs f) (hg : ∀ t, ∃ bs', Scans N bs' (g t)) :
    Reaches N s paths fun t => g t (f t) := by
  intro t ht
  obtain ⟨x, hx, hscope, hpaths, htime⟩ := hf t ht
  obtain ⟨bs', hg⟩ := hg t
  exact ⟨x, (hg (f t) (hf' t ht).tidy).accesses hx, hscope, hpaths, htime⟩

theorem andThen {bs' : List (Bind (Option ImportSource))} (hf : Reaches N s paths f) (hf' : Scans N bs f) (hg : Scans N bs' g) :
    Reaches N s paths fun t => g (f t) :=
  hf.before hf' fun _ => ⟨bs', hg⟩

theorem tick (hf : Reaches N s paths f) (s' : Scope) : Reaches N s paths fun t => (f t).tick s' := hf

theorem foldl {α : Type} {step : α → Table → Table} {binds : α → List (Bind (Option ImportSource))} {xs : List α}
    (hall : ∀ x ∈ xs, Scans N (binds x) (step x)) {x : α} (hx : x ∈ xs) (h : Reaches N s paths (step x)) :
    Reaches N s paths fun t => xs.foldl (fun t x => step x t) t := by
  induction xs with
  | nil => cases hx
  | cons y ys ih =>
    have hys := fun z hz => hall z (List.mem_cons_of_mem y hz)
    rcases List.mem_cons.1 hx with rfl | hx
    · exact h.andThen (hall x List.mem_cons_self) (Scans.foldl hys)
    · exact (ih hys hx).after (hall y List.mem_cons_self)

end Reaches

/-- The paths that the name an expression begins with may be meant for, for expressions that are made of names and calls. -/
def Expr.headPaths? : Expr → Option (List String)
  | .name n => some [n.text]
  | .attribute (.name n) _ a => some [n.text ++ "." ++ a.text, n.text]
  | .call f _ _ _ => f.headPaths?
  | _ => none

section
variable {N : Effect → Prop} {onText : Place → String → Table → Table} (ht : QuietTexts N onText)
include ht

theorem scanExpr_reaches : ∀ (p : Place) (e : Expr) {paths : List String}, e.headPaths? = some paths → p.dotted = none →
    p.store = false → (∀ z ∈ e.noises, z.Quiet N) → Reaches N p.scope paths (scanExpr onText p e)
  | p, .name n, paths, he, hd, hs, _ => by
    cases he
    intro t _
    refine ⟨⟨[n.text], p.scope, t.clock p.scope⟩, ?_, rfl, rfl, Nat.le_refl _⟩
    simp [scanExpr, scanName, hd, hs, Table.access, Table.place, Table.clock]
  | p, .attribute (.name n) d a, paths, he, hd, hs, _ => by
    cases he
    intro t _
    refine ⟨⟨[n.text ++ "." ++ a.text, n.text], p.scope, t.clock p.scope⟩, ?_, rfl, rfl, Nat.le_refl _⟩
    simp [scanExpr, scanName, hd, Place.load, Expr.dottedNames, Expr.bare, Table.access, Table.place, Table.clock]
  | p, .call f o args c, paths, he, hd, hs, hz => by
    have hparts : p.call.Takes N (f.noises ++ walkArgs Expr.noise args) (f.nameTexts ++ walkArgs Expr.nameText args) :=
      .of_load hz hs
    have hfunc := scanExpr_reaches p.call f he rfl hs hparts.left.quiet
    exact hfunc.before (scanExpr_scans ht p.call f hparts.left)
      fun t => ⟨[], scanArgs_scans ht p.call _ true args hparts.right⟩

theorem scanDecorators_reaches {s : Scope} (ds : List Decorator) (hz : ∀ z ∈ ds.flatMap fun d => d.expr.noises, z.Quiet N)
    {y : Scope × Expr} (hy : y ∈ ds.map fun d => (s, d.expr)) {paths : List String} (hp : y.2.headPaths? = some paths) :
    Reaches N y.1 paths (scanDecorators onText (.of s) ds) := by
  obtain ⟨d, hd, rfl⟩ := List.mem_map.1 hy
  have hquiet : ∀ d ∈ ds, ∀ z ∈ d.expr.noises, z.Quiet N := fun d hd z hz' => hz z (List.mem_flatMap.2 ⟨d, hd, hz'⟩)
  exact Reaches.foldl (fun d hd => scanExpr_of ht d.expr (hquiet d hd)) hd
    (scanExpr_reaches ht (.of s) d.expr hp rfl rfl (hquiet d hd))

variable {s : Scope} (hs : s.isNamed = true)
include hs

theorem scanSmall_reaches (x : Small) (hz : ∀ z ∈ x.heard, z.Quiet N) {e : Expr} (he : x.assigned? = some e)
    {paths : List String} (hp : e.headPaths? = some paths) : Reaches N s paths (scanSmall onText (.of s) x) := by
  cases x with
  | assign targets value =>
    cases he
    obtain ⟨htargets, hvalue⟩ := List.forall_mem_append.1 hz
    have hreach := scanExpr_reaches ht (.of s) e hp rfl rfl hvalue
    exact (hreach.after (scanTargets_of ht hs targets htargets)).tick _
  | annAssign target hint value =>
    cases value with
    | none => cases he
    | some a =>
      cases he
      obtain ⟨hannotated, hvalue⟩ := List.forall_mem_append.1 hz
      obtain ⟨htarget, hhint⟩ := List.forall_mem_append.1 hannotated
      have hreach := scanExpr_reaches ht (.of s) a.value hp rfl rfl hvalue
      exact (hreach.after (scanAnnotated_of ht hs target hint htarget hhint)).tick _
  | _ => cases he

theorem scanItems_reaches (is : List Item) (hz : ∀ z ∈ gatherItems listening s is, z.Quiet N) {y : Scope × Expr}
    (hy : y ∈ gatherItems placing s is) {paths : List String} (hp : y.2.headPaths? = some paths) :
    Reaches N y.1 paths (scanItems onText (.of s) is) := by
  have hquiet : ∀ i ∈ is, ∀ z ∈ i.stmt.heard, z.Quiet N := fun i hi z hz' => hz z (List.mem_flatMap.2 ⟨i, hi, hz'⟩)
  obtain ⟨i, hi, hy⟩ := List.mem_flatMap.1 hy
  obtain ⟨e, he, rfl⟩ := List.mem_map.1 hy
  exact Reaches.foldl (fun i hi => scanSmall_scans ht hs i.stmt (hquiet i hi)) hi
    (scanSmall_reaches ht hs i.stmt (hquiet i hi) (Option.mem_toList.1 he) hp)

omit hs

/-- What decorates something or is assigned in a node is used when the node is scanned. -/
theorem Node.scan_reaches (n : Node) : ∀ s : Scope, s.isNamed = true → (∀ z ∈ n.gather listening s, z.Quiet N) →
    ∀ y ∈ n.gather placing s, ∀ {paths}, y.2.headPaths? = some paths → Reaches N y.1 paths (n.scan onText (.of s)) := by
  induction n using Node.induct with
  | line l => exact fun s hs hz y hy _ hp => scanItems_reaches ht hs l.items hz hy hp
  | inline o is t => exact fun s hs hz y hy _ hp => scanItems_reaches ht hs is hz hy hp
  | compound cs ih | block o i xs f ih => exact ih
  | funcDef h b ih =>
    intro s hs hz y hy paths hp
    have hz : ∀ z ∈ h.noises ++ b.gather listening (h.frame :: s), z.Quiet N := hz
    rw [FuncHead.noises, List.forall_mem_append, List.forall_mem_append, List.forall_mem_append] at hz
    obtain ⟨⟨⟨hdecorators, hparams⟩, hreturns⟩, hbody⟩ := hz
    have hframe : Scope.isNamed (h.frame :: s) = true := hs
    have hname : Scans N (storeBinds s [h.name.text]) fun t => t.assign s h.name.text none := .assign hs _ _
    have hhead := ((scanParams_of (s := s) ht hframe h.params hparams).tick (h.frame :: s)).comp hname
    have hsuite := Node.scan_scans ht (.suite b) (h.frame :: s) hframe hbody
    have hds := scanDecorators_of (s := s) ht h.decorators hdecorators
    have hback := scanReturns_of (s := s) ht h.returns hreturns
    -- the body is scanned before the decorators
    rcases List.mem_append.1 hy with hy | hy
    · have hreach := (scanDecorators_reaches ht h.decorators hdecorators hy hp).after (hsuite.comp hhead)
      exact (hreach.andThen (hds.seq (hsuite.comp hhead)) hback).tick s
    · have hreach := (ih (h.frame :: s) hframe hbody y hy hp).after hhead
      exact ((hreach.andThen (hsuite.comp hhead) hds).andThen (hds.seq (hsuite.comp hhead)) hback).tick s
  | classDef h b ih =>
    intro s hs hz y hy paths hp
    have hz : ∀ z ∈ h.noises ++ b.gather listening (h.frame :: s), z.Quiet N := hz
    rw [ClassHead.noises, List.forall_mem_append, List.forall_mem_append] at hz
    obtain ⟨⟨hdecorators, hargs⟩, hbody⟩ := hz
    have hframe : Scope.isNamed (h.frame :: s) = true := hs
    have hname : Scans N (storeBinds s [h.name.text]) fun t => t.assign s h.name.text none := .assign hs _ _
    have hds := (scanDecorators_of (s := s) ht h.decorators hdecorators).seq hname
    have hhead := (scanClassArgs_of (s := s) ht h.args hargs).seq hds
    have hsuite := Node.scan_scans ht (.suite b) (h.frame :: s) hframe hbody
    rcases List.mem_append.1 hy with hy | hy
    · have hreach := (scanDecorators_reaches ht h.decorators hdecorators hy hp).after hname
      exact ((hreach.andThen hds (scanClassArgs_of (s := s) ht h.args hargs)).andThen hhead hsuite).tick s
    · exact ((ih (h.frame :: s) hframe hbody y hy hp).after hhead).tick s
  | noClause | noStmt => exact fun _ _ _ _ hy => absurd hy List.not_mem_nil
  | clause head b cs ihb ihc =>
    intro s hs hz y hy paths hp
    have hz : ∀ z ∈ head.header.noises ++ b.gather listening s ++ gatherClauses listening s cs, z.Quiet N := hz
    rw [List.forall_mem_append, List.forall_mem_append] at hz
    have hhead := scanHeader_scans ht hs head.header hz.1.1
    have hsuite := (Node.scan_scans ht (.suite b) s hs hz.1.2).comp hhead
    rcases List.mem_append.1 hy with hy | hy
    · have hreach := (ihb s hs hz.1.2 y hy hp).after hhead
      exact hreach.andThen hsuite (Node.scan_scans ht (.clauses cs) s hs hz.2)
    · exact (ihc s hs hz.2 y hy hp).after hsuite
  | next x xs ihx ihxs =>
    intro s hs hz y hy paths hp
    have hz : ∀ z ∈ x.gather listening s ++ gatherStmts listening s xs, z.Quiet N := hz
    rw [List.forall_mem_append] at hz
    have hfirst := Node.scan_scans ht (.stmt x) s hs hz.1
    rcases List.mem_append.1 hy with hy | hy
    · exact (ihx s hs hz.1 y hy hp).andThen hfirst (Node.scan_scans ht (.stmts xs) s hs hz.2)
    · exact (ihxs s hs hz.2 y hy hp).after hfirst

end

/-! ## Imports at the top -/

/-- An import or an expression. -/
def Small.isPrelude : Small → Bool
  | .expr _ => true
  | x => x.isImport

/-- A line of imports and expressions. -/
def Stmt.isPrelude : Stmt → Bool
  | .line l => l.items.all fun i => i.stmt.isPrelude
  | _ => false

/-- The assignments at the top level are over, those to loud names apart. -/
def Table.Past (N : Effect → Prop) (t : Table) : Prop :=
  ∀ a ∈ t.assignments, a.scope = [] → ¬N (.loud a.name) → a.time < t.clock []

section
variable {N : Effect → Prop} {onText : Place → String → Table → Table} {t : Table}

/-- What binds nothing leaves the top level alone. -/
theorem Table.Past.of_goes (h : t.Past N) {t' : Table} (hg : Goes N [] t t') : t'.Past N := by
  intro a ha hs hloud
  rcases hg.assigned a ha with ha | ha | ⟨hnamed, -⟩ | ⟨_, hb, -⟩
  · exact Nat.lt_of_lt_of_le (h a ha hs hloud) (hg.clock [])
  · exact absurd ha hloud
  · rw [hs] at hnamed
    cases hnamed
  · cases hb

theorem scanAliases_past (h : t.Past N) (origin : String) (as : List Alias) : (scanAliases [] origin as t).Past N := by
  have hassign : ∀ (names : List String) (source : ImportSource) (t : Table),
      (∀ a ∈ t.assignments, a.scope = [] → ¬N (.loud a.name) → a.time ≤ t.clock []) →
      ∀ a ∈ (names.foldl (fun t n => t.assign [] n (some source)) t).assignments, a.scope = [] → ¬N (.loud a.name) →
        a.time ≤ (names.foldl (fun t n => t.assign [] n (some source)) t).clock [] := by
    intro names source
    induction names with
    | nil => exact fun _ h => h
    | cons n names ih =>
      intro t h
      refine ih _ fun a ha hs hloud => ?_
      rcases List.mem_cons.1 ha with rfl | ha
      · have hhome : t.home n [] = [] := hs
        exact Nat.le_of_eq (congrArg t.clock hhome)
      · exact h a ha hs hloud
  intro a ha hs hloud
  have hle := hassign _ _ t (fun a ha hs hloud => Nat.le_of_lt (h a ha hs hloud)) a ha hs hloud
  have htick : ∀ u : Table, (u.tick []).clock [] = u.clock [] + 1 := fun u => List.count_cons_self
  rw [scanAliases, htick]
  omega

variable (ht : QuietTexts N onText)
include ht

theorem scanSmall_past (h : t.Past N) (htidy : t.Tidy N) {x : Small} (hx : x.isPrelude = true)
    (hz : ∀ z ∈ x.heard, z.Quiet N) : (scanSmall onText (.of []) x t).Past N := by
  cases x with
  | importNames o as => exact scanAliases_past h "" as
  | importFrom f => exact scanAliases_past h f.origin f.imported.aliases
  | expr e => exact h.of_goes (scanSmall_scans ht rfl (.expr e) hz t htidy)
  | _ => cases hx

/-- After the imports at the top of a module all that they assign is over. -/
theorem scanPrelude_past (xs : List Stmt) (hx : ∀ x ∈ xs, x.isPrelude = true)
    (hz : ∀ z ∈ gatherStmts listening [] xs, z.Quiet N) :
    ∀ t : Table, t.Past N → t.Tidy N → (scanStmts onText (.of []) xs t).Past N := by
  have hitems : ∀ is : List Item, (is.all fun i => i.stmt.isPrelude) = true → (∀ z ∈ gatherItems listening [] is, z.Quiet N) →
      ∀ t : Table, t.Past N → t.Tidy N → (scanItems onText (.of []) is t).Past N := by
    intro is
    induction is with
    | nil => exact fun _ _ _ h _ => h
    | cons i is ih =>
      intro his hz t h htidy
      rw [List.all_cons, Bool.and_eq_true] at his
      rw [gatherItems, List.flatMap_cons, List.forall_mem_append] at hz
      exact ih his.2 hz.2 _ (scanSmall_past ht h htidy his.1 hz.1) (scanSmall_scans ht rfl i.stmt hz.1 t htidy).tidy
  induction xs with
  | nil => exact fun _ h _ => h
  | cons x xs ih =>
    intro t h htidy
    rw [gatherStmts, List.forall_mem_append] at hz
    have hgoes := Node.scan_scans ht (.stmt x) [] rfl hz.1 t htidy
    refine ih (fun y hy => hx y (List.mem_cons_of_mem x hy)) hz.2 _ ?_ hgoes.tidy
    have hline := hx x List.mem_cons_self
    cases x with
    | line l => exact hitems l.items hline hz.1 t h htidy
    | _ => cases hline

end

/-! ## Imports in use -/

theorem Table.mem_lookup {t : Table} {s : Scope} {name : String} {a : Assignment} (h : a ∈ t.lookup s name) :
    a ∈ t.assignments ∧ a.name = name := by
  have hown : ∀ {s}, a ∈ t.own s name → a ∈ t.assignments ∧ a.name = name := by
    intro s ha
    obtain ⟨ha, hown⟩ := List.mem_filter.1 ha
    exact ⟨ha, (of_decide_eq_true hown).1⟩
  have hfrom : ∀ (s : Scope) nested, a ∈ t.lookupFrom name nested s → a ∈ t.assignments ∧ a.name = name := by
    intro s
    induction s with
    | nil => exact fun _ => hown
    | cons f fs ih =>
      intro nested ha
      rw [Table.lookupFrom] at ha
      split at ha
      · exact ih true ha
      · split at ha
        · exact hown ha
        · exact ih true ha
        · split at ha
          · exact ih true ha
          · exact hown ha
  exact hfrom s false h

/-- An access refers to what comes before it, and to what the scope around sees if something in its own scope comes later. -/
theorem Table.mem_references_iff {t : Table} {x : Access} {a : Assignment} : a ∈ t.references x ↔
    a ∈ t.lookup x.scope (t.accessed x) ∧ a.precedes x = true ∨
      ∃ f outer, x.scope = f :: outer ∧ a ∈ t.lookup outer (t.accessed x) ∧
        ∃ b ∈ t.lookup x.scope (t.accessed x), b.precedes x = false := by
  rw [Table.references, List.mem_append, List.mem_filter]
  refine or_congr_right ?_
  cases hs : x.scope with
  | nil => simp
  | cons f outer =>
    by_cases hall : ((t.lookup (f :: outer) (t.accessed x)).all fun b => b.precedes x) = true
    · have hnone : ∀ b ∈ t.lookup (f :: outer) (t.accessed x), b.precedes x ≠ false := by simpa using hall
      simpa [hall] using fun _ => hnone
    · have hsome : ∃ b ∈ t.lookup (f :: outer) (t.accessed x), b.precedes x = false := by simpa using hall
      simpa [hall] using fun _ => hsome

/-- What an access refers to is found from its scope or from the one around. -/
theorem Table.lookup_of_references {t : Table} {x : Access} {a : Assignment} (h : a ∈ t.references x) :
    ∃ s, a ∈ t.lookup s (t.accessed x) := by
  rcases Table.mem_references_iff.1 h with ⟨ha, -⟩ | ⟨f, outer, -, ha, -⟩
  · exact ⟨x.scope, ha⟩
  · exact ⟨outer, ha⟩

/-- It has the name that is accessed. -/
theorem Table.name_of_references {t : Table} {x : Access} {a : Assignment} (h : a ∈ t.references x) : a.name = t.accessed x := by
  obtain ⟨s, hs⟩ := Table.lookup_of_references h
  exact (Table.mem_lookup hs).2

/-- A name that is assigned to only at the top level is looked up there. -/
theorem Table.lookup_top {t : Table} {name : String} (h : ∀ a ∈ t.assignments, a.name = name → a.scope = []) (s : Scope) :
    t.lookup s name = t.own [] name := by
  have hown : ∀ f fs, t.own (f :: fs) name = [] := by
    intro f fs
    refine List.filter_eq_nil_iff.2 fun a ha hown => ?_
    obtain ⟨hname, hscope⟩ := of_decide_eq_true hown
    rw [h a ha hname] at hscope
    cases hscope
  have hfrom : ∀ nested, t.lookupFrom name nested s = t.own [] name := by
    induction s with
    | nil => exact fun _ => rfl
    | cons f fs ih =>
      intro nested
      rw [Table.lookupFrom]
      split
      · exact ih true
      · split
        · rfl
        · exact ih true
        · rw [hown, List.isEmpty_nil, if_pos rfl]
          exact ih true
  exact hfrom false

/-- An import at the top level is in use if its name is used elsewhere or later. -/
theorem Table.importInUse_of {t : Table} {name : String} (htop : ∀ a ∈ t.assignments, a.name = name → a.scope = [])
    {a : Assignment} (ha : a ∈ t.own [] name) (hsource : a.source.isSome = true) {x : Access} (hx : x ∈ t.accesses)
    (hname : t.accessed x = name) (htime : x.scope = [] → a.time < x.time) : t.importInUse [] name = true := by
  have hprecedes : a.precedes x = true := by
    rw [Assignment.precedes, Bool.or_eq_true, decide_eq_true_eq, decide_eq_true_eq]
    by_cases hs : x.scope = []
    · exact .inr (htime hs)
    · have hscope : a.scope = [] := (of_decide_eq_true (List.mem_filter.1 ha).2).2
      exact .inl fun he => hs (he ▸ hscope)
  have hfound : a ∈ t.references x := by
    refine Table.mem_references_iff.2 (.inl ⟨?_, hprecedes⟩)
    rw [hname, Table.lookup_top htop]
    exact ha
  have hreferenced : t.isReferenced a = true := List.any_eq_true.2 ⟨x, hx, by simpa using hfound⟩
  exact List.any_eq_true.2 ⟨a, ha, by rw [hsource, hreferenced]; rfl⟩

end AttrsUpgrade
