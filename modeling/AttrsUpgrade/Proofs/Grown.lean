import AttrsUpgrade.Proofs.Beside
import AttrsUpgrade.Proofs.Undone
/-!
# Tables grown by imports

Names that a module is given at its top level come into its table beside what is there already. New lines push what follows
them to a later time, and names that an import statement receives leave the times alone; either way what came before something
at the top level still does (`Table.Grown`). So an import that was in use is in use afterwards, unless something may now mean one
of the new names (`Table.Grown.importInUse`).
-/

namespace AttrsUpgrade

/-! ## Times -/

/-- The time of something in a scope, and its time after `k` moments were put in at the top level at the time `c`. -/
def Shifted (c k : Nat) (s : Scope) (time time' : Nat) : Prop :=
  if s = [] then time' = time ∧ time ≤ c ∨ time' = time + k ∧ c ≤ time else time' = time

/-- What comes first at the top level still does. -/
theorem Shifted.lt {c k : Nat} {s : Scope} {time₁ time₁' time₂ time₂' : Nat} (h₁ : Shifted c k s time₁ time₁')
    (h₂ : Shifted c k s time₂ time₂') (h : time₁ < time₂) : time₁' < time₂' := by
  unfold Shifted at h₁ h₂
  by_cases hs : s = []
  · rw [if_pos hs] at h₁ h₂
    omega
  · rw [if_neg hs] at h₁ h₂
    omega

/-- Nothing at the top level happens later than now. -/
structure Table.Timely (t : Table) : Prop where
  assigned : ∀ a ∈ t.assignments, a.scope = [] → a.time ≤ t.clock []
  accessed : ∀ x ∈ t.accesses, x.scope = [] → x.time ≤ t.clock []

theorem Table.clock_tick (t : Table) (s s' : Scope) : (t.tick s).clock s' = t.clock s' + if s = s' then 1 else 0 := by
  simp [Table.clock, Table.tick, List.count_cons]

/-- Scanning leaves a table timely: as a relation, timely tables stand to themselves. -/
theorem Table.Timely.lasting : Lasting fun t t' => t' = t ∧ t.Timely where
  beside := by
    rintro _ t ⟨rfl, -⟩
    exact .refl t
  place _ _ := by
    rintro ⟨rfl, h⟩
    exact ⟨rfl, h.assigned, h.accessed⟩
  access {_ t} s paths := by
    rintro ⟨rfl, h⟩
    refine ⟨rfl, h.assigned, fun x hx hs => ?_⟩
    rcases List.mem_cons.1 hx with rfl | hx
    · exact Nat.le_of_eq (congrArg t.clock hs)
    · exact h.accessed x hx hs
  tick s := by
    rintro ⟨rfl, h⟩
    refine ⟨rfl, fun a ha hs => ?_, fun x hx hs => ?_⟩
    · rw [Table.clock_tick]
      exact Nat.le_add_right_of_le (h.assigned a ha hs)
    · rw [Table.clock_tick]
      exact Nat.le_add_right_of_le (h.accessed x hx hs)
  fail _ := by
    rintro ⟨rfl, h⟩
    exact ⟨rfl, h.assigned, h.accessed⟩
  renumber _ := by
    rintro ⟨rfl, h⟩
    exact ⟨rfl, h.assigned, h.accessed⟩
  redirect s reach name := by
    rintro ⟨rfl, h⟩
    refine ⟨rfl, ?_⟩
    unfold Table.redirect
    split
    · exact h
    · exact ⟨h.assigned, h.accessed⟩
    · exact ⟨h.assigned, h.accessed⟩
  assign {_ t} s name source := by
    rintro ⟨rfl, h⟩
    refine ⟨rfl, fun a ha hs => ?_, h.accessed⟩
    rcases List.mem_cons.1 ha with rfl | ha
    · exact Nat.le_of_eq (congrArg t.clock hs)
    · exact h.assigned a ha hs

theorem scanStmts_timely (xs : List Stmt) {t : Table} (h : t.Timely) : (scanStmts scanHintText .top xs t).Timely :=
  (Node.scan_parallel (scanHintText_parallel Table.Timely.lasting) (.stmts xs) .top t t ⟨rfl, h⟩).2

/-! ## Tables -/

/-- An alias that is written anew for one of the names. -/
def Alias.IsNew (names : List String) (a : Alias) : Prop := ∃ name ∈ names, '.' ∉ name.toList ∧ a = .ofName name

theorem Alias.bound_of_new {names : List String} {as : List Alias} (h : ∀ a ∈ as, a.IsNew names) :
    ∀ name ∈ as.flatMap Alias.bound, name ∈ names ∧ '.' ∉ name.toList := by
  intro name hname
  obtain ⟨a, ha, hbound⟩ := List.mem_flatMap.1 hname
  obtain ⟨n, hn, hdot, rfl⟩ := h a ha
  rw [Alias.bound_ofName, List.mem_singleton] at hbound
  exact hbound ▸ ⟨hn, hdot⟩

/-- The second table has everything of the first, and beside that only imports of names at the top level. -/
structure Table.Grown (names : List String) (c k : Nat) (t t' : Table) : Prop where
  beside : t.Beside t'
  assigned : ∀ a ∈ t.assignments, ∃ a' ∈ t'.assignments, a.Alike a' ∧ Shifted c k a.scope a.time a'.time
  new : ∀ a' ∈ t'.assignments, a'.name ∈ names ∨ ∃ a ∈ t.assignments, a.Alike a'
  accessed : ∀ x ∈ t.accesses, ∃ x' ∈ t'.accesses, x'.paths = x.paths ∧ x'.scope = x.scope ∧
    Shifted c k x.scope x.time x'.time
  clock : ∀ s, t'.clock s = t.clock s + if s = [] then k else 0
  since : c ≤ t.clock []

namespace Table.Grown
variable {names : List String} {c k : Nat} {t t' : Table}

theorem refl (names : List String) (t : Table) : t.Grown names 0 0 t where
  beside := .refl t
  assigned a ha := ⟨a, ha, .refl a, by simp [Shifted]⟩
  new a ha := .inr ⟨a, ha, .refl a⟩
  accessed x hx := ⟨x, hx, rfl, rfl, by simp [Shifted]⟩
  clock := by simp
  since := Nat.zero_le _

theorem shifted_clock (h : t.Grown names c k t') (s : Scope) : Shifted c k s (t.clock s) (t'.clock s) := by
  rw [h.clock, Shifted]
  split
  · next hs => exact .inr ⟨rfl, hs ▸ h.since⟩
  · rfl

theorem lasting (names : List String) (c k : Nat) : Lasting (Table.Grown names c k) where
  beside h := h.beside
  place s site h := { h with beside := Beside.lasting.place s site h.beside }
  access s paths h := by
    refine { h with beside := Beside.lasting.access s paths h.beside, accessed := fun x hx => ?_ }
    rcases List.mem_cons.1 hx with rfl | hx
    · exact ⟨_, List.mem_cons_self, rfl, rfl, h.shifted_clock s⟩
    · obtain ⟨x', hx', hlike⟩ := h.accessed x hx
      exact ⟨x', List.mem_cons_of_mem _ hx', hlike⟩
  tick s h := by
    refine { h with beside := Beside.lasting.tick s h.beside, clock := fun s' => ?_, since := ?_ }
    · rw [Table.clock_tick, Table.clock_tick, h.clock]
      omega
    · rw [Table.clock_tick]
      exact Nat.le_add_right_of_le h.since
  fail e h := { h with beside := Beside.lasting.fail e h.beside }
  renumber n h := { h with beside := Beside.lasting.renumber n h.beside }
  redirect s reach name h := by
    have hbeside := Beside.lasting.redirect s reach name h.beside
    unfold Table.redirect at hbeside ⊢
    split at hbeside
    · exact h
    · exact { h with beside := hbeside }
    · exact { h with beside := hbeside }
  assign s name source h := by
    have hhome := h.beside.home_eq name s
    refine { h with beside := Beside.lasting.assign s name source h.beside, assigned := fun a ha => ?_, new := fun a' ha' => ?_ }
    · rcases List.mem_cons.1 ha with rfl | ha
      · refine ⟨_, List.mem_cons_self, .of_source rfl hhome rfl, ?_⟩
        simp only [hhome]
        exact h.shifted_clock _
      · obtain ⟨a', ha', hlike⟩ := h.assigned a ha
        exact ⟨a', List.mem_cons_of_mem _ ha', hlike⟩
    · rcases List.mem_cons.1 ha' with rfl | ha'
      · exact .inr ⟨_, List.mem_cons_self, .of_source rfl hhome rfl⟩
      · exact (h.new a' ha').imp_right fun ⟨a, ha, halike⟩ => ⟨a, List.mem_cons_of_mem _ ha, halike⟩

/-! ## New names -/

/-- One of the names is imported in the second table. -/
theorem assign_new (h : t.Grown names c k t') {name : String} (hname : name ∈ names) (hdot : '.' ∉ name.toList)
    {i : ImportSource} (hi : i.IsPackage) : t.Grown names c k (t'.assign [] name (some i)) := by
  refine { h with beside := h.beside.assign_package hdot hi, assigned := fun a ha => ?_, new := fun a' ha' => ?_ }
  · obtain ⟨a', ha', hlike⟩ := h.assigned a ha
    exact ⟨a', List.mem_cons_of_mem _ ha', hlike⟩
  · rcases List.mem_cons.1 ha' with rfl | ha'
    · exact .inl hname
    · exact h.new a' ha'

theorem foldl_assign_new {new : List String} (hnew : ∀ name ∈ new, name ∈ names ∧ '.' ∉ name.toList) {i : ImportSource}
    (hi : i.IsPackage) (h : t.Grown names c k t') :
    t.Grown names c k (new.foldl (fun t n => t.assign [] n (some i)) t') := by
  induction new generalizing t' with
  | nil => exact h
  | cons name new ih =>
    rw [List.forall_mem_cons] at hnew
    exact ih hnew.2 (h.assign_new hnew.1.1 hnew.1.2 hi)

/-- Something is imported from the package in both tables, by statements that may differ. -/
theorem assign_both (h : t.Grown names c k t') (s : Scope) (name : String) {i i' : ImportSource} (hi : i.IsPackage)
    (hi' : i'.IsPackage) : (t.assign s name (some i)).Grown names c k (t'.assign s name (some i')) := by
  have hhome := h.beside.home_eq name s
  have halike : Assignment.Alike ⟨name, t.home name s, t.clock (t.home name s), some i⟩
      ⟨name, t'.home name s, t'.clock (t'.home name s), some i'⟩ :=
    .of_package rfl hhome rfl rfl hi hi'
  refine { h with
    beside := { h.beside with assigned := .cons halike h.beside.assigned, assigned' := .cons halike.symm h.beside.assigned' }
    assigned := fun a ha => ?_, new := fun a' ha' => ?_ }
  · rcases List.mem_cons.1 ha with rfl | ha
    · refine ⟨_, List.mem_cons_self, halike, ?_⟩
      simp only [hhome]
      exact h.shifted_clock _
    · obtain ⟨a', ha', hlike⟩ := h.assigned a ha
      exact ⟨a', List.mem_cons_of_mem _ ha', hlike⟩
  · rcases List.mem_cons.1 ha' with rfl | ha'
    · exact .inr ⟨_, List.mem_cons_self, halike⟩
    · exact (h.new a' ha').imp_right fun ⟨a, ha, hlike⟩ => ⟨a, List.mem_cons_of_mem _ ha, hlike⟩

/-- Names that an import from the package receives. -/
theorem receive_aliases (h : t.Grown names c k t') {new : List Alias} (hnew : ∀ a ∈ new, a.IsNew names) (as : List Alias) :
    (scanAliases [] packageName as t).Grown names c k (scanAliases [] packageName (new ++ as) t') := by
  have hi : (ImportSource.mk packageName (as.map Alias.imported)).IsPackage := .inl rfl
  have hi' : (ImportSource.mk packageName ((new ++ as).map Alias.imported)).IsPackage := .inl rfl
  have hboth : ∀ (bound : List String) (t t' : Table), t.Grown names c k t' →
      (bound.foldl (fun t n => t.assign [] n (some ⟨packageName, as.map Alias.imported⟩)) t).Grown names c k
        (bound.foldl (fun t n => t.assign [] n (some ⟨packageName, (new ++ as).map Alias.imported⟩)) t') := by
    intro bound
    induction bound with
    | nil => exact fun _ _ h => h
    | cons name bound ih => exact fun t t' h => ih _ _ (h.assign_both [] name hi hi')
  -- the names received come first, in the second table alone, and then the old ones in both
  unfold scanAliases
  simp only [List.flatMap_append, List.foldl_append]
  exact (lasting names c k).tick [] (hboth _ t _ (h.foldl_assign_new (Alias.bound_of_new hnew) hi'))

end Table.Grown

/-! ## New lines -/

/-- Imports of names come to the end of a table, and `k` moments of the top level pass. -/
structure Table.Adds (names : List String) (k : Nat) (t t' : Table) : Prop where
  assignments : t.assignments ⊆ t'.assignments
  new : ∀ a ∈ t'.assignments, a ∈ t.assignments ∨ a.name ∈ names
  accesses : t'.accesses = t.accesses
  clock : ∀ s, t'.clock s = t.clock s + if s = [] then k else 0

theorem Table.Adds.trans {names : List String} {k k' : Nat} {t t' t'' : Table} (h : t.Adds names k t')
    (h' : t'.Adds names k' t'') : t.Adds names (k + k') t'' where
  assignments := List.Subset.trans h.assignments h'.assignments
  new a ha := (h'.new a ha).elim (h.new a) .inr
  accesses := h'.accesses.trans h.accesses
  clock s := by
    rw [h'.clock, h.clock]
    split <;> omega

theorem scanAliases_adds {names : List String} (origin : String) {as : List Alias}
    (has : ∀ name ∈ as.flatMap Alias.bound, name ∈ names) (t : Table) : t.Adds names 1 (scanAliases [] origin as t) := by
  have hfold : ∀ (bound : List String) (source : ImportSource) (t : Table), (∀ name ∈ bound, name ∈ names) →
      t.Adds names 0 (bound.foldl (fun t n => t.assign [] n (some source)) t) := by
    intro bound source
    induction bound with
    | nil => exact fun t _ => ⟨List.Subset.refl _, fun _ ha => .inl ha, rfl, by simp⟩
    | cons name bound ih =>
      intro t hbound
      rw [List.forall_mem_cons] at hbound
      have hfirst : t.Adds names 0 (t.assign [] name (some source)) := by
        refine ⟨List.subset_cons_self _ _, fun a ha => ?_, rfl, by simp [Table.clock, Table.assign]⟩
        rcases List.mem_cons.1 ha with rfl | ha
        · exact .inr hbound.1
        · exact .inl ha
      exact hfirst.trans (ih _ hbound.2)
  have hbound := hfold _ ⟨origin, as.map Alias.imported⟩ t has
  refine ⟨hbound.assignments, hbound.new, hbound.accesses, fun s => ?_⟩
  rw [scanAliases, Table.clock_tick, hbound.clock]
  simp only [eq_comm]
  split <;> rfl

theorem newImports_adds (onText : Place → String → Table → Table) {names : List String} {package : Bool} {new : List Alias}
    (hpackage : package = true → packageName ∈ names) (hnew : ∀ a ∈ new, a.IsNew names) (t : Table) :
    ∃ k, t.Adds names k (scanStmts onText .top (newImports package new) t) := by
  have hnone : t.Adds names 0 t := ⟨List.Subset.refl _, fun _ ha => .inl ha, rfl, by simp⟩
  have hobjects : ∀ t : Table, t.Adds names 1 (scanAliases [] packageName new t) :=
    scanAliases_adds _ fun name hname => (Alias.bound_of_new hnew name hname).1
  have hwhole : packageName ∈ names → t.Adds names 1 (scanAliases [] "" [.ofName packageName] t) := by
    intro hp
    refine scanAliases_adds _ (fun name hname => ?_) t
    rw [List.flatMap_singleton, Alias.bound_ofName, List.mem_singleton] at hname
    exact hname ▸ hp
  cases package with
  | false =>
    cases new with
    | nil => exact ⟨0, hnone⟩
    | cons a new => exact ⟨1, hobjects t⟩
  | true =>
    cases new with
    | nil => exact ⟨1, hwhole (hpackage rfl)⟩
    | cons a new => exact ⟨1 + 1, (hwhole (hpackage rfl)).trans (hobjects _)⟩

namespace Table.Grown
variable {names : List String} {c k : Nat} {t t' : Table}

/-- New lines come in after all that happened so far. -/
theorem insert {t'' : Table} (h : t.Grown names 0 0 t') (ht : t.Timely) (hbeside : t'.Beside t'') (hadds : t'.Adds names k t'') :
    t.Grown names (t.clock []) k t'' := by
  have hnow : ∀ {s : Scope} {time time' : Nat}, Shifted 0 0 s time time' → (s = [] → time ≤ t.clock []) →
      Shifted (t.clock []) k s time time' := by
    intro s time time' hshift hle
    unfold Shifted at hshift ⊢
    by_cases hs : s = []
    · rw [if_pos hs] at hshift ⊢
      have := hle hs
      omega
    · rwa [if_neg hs] at hshift ⊢
  refine ⟨h.beside.trans hbeside, fun a ha => ?_, fun a' ha' => ?_, fun x hx => ?_, fun s => ?_, Nat.le_refl _⟩
  · obtain ⟨a', ha', halike, hshift⟩ := h.assigned a ha
    exact ⟨a', hadds.assignments ha', halike, hnow hshift (ht.assigned a ha)⟩
  · exact (hadds.new a' ha').elim (h.new a') .inl
  · obtain ⟨x', hx', hpaths, hscope, hshift⟩ := h.accessed x hx
    exact ⟨x', hadds.accesses ▸ hx', hpaths, hscope, hnow hshift (ht.accessed x hx)⟩
  · rw [hadds.clock, h.clock]
    simp

end Table.Grown

/-! ## Names that are received -/

section
variable {names : List String} {c k : Nat} {onText : Place → String → Table → Table} {all : List Alias}
variable (ht : ParallelTexts (Table.Grown names c k) onText) (hall : ∀ a ∈ all, a.IsNew names)

include ht hall

/-- A statement that receives names at the top level imports what it did and these. -/
theorem Small.receive_grown {p : Place} {x : Small} (htop : x.fromPackage = true → all = [] ∨ p.scope = []) {new : List Alias}
    (hnew : new ⊆ all) {t t' : Table} (h : t.Grown names c k t') :
    (scanSmall onText p x t).Grown names c k (scanSmall onText p (x.receive new).1 t') := by
  have hsame := scanSmall_parallel ht p x t t' h
  cases x with
  | importFrom f =>
    cases himp : f.imported with
    | star => simpa only [Small.receive, himp] using hsame
    | names parens as =>
      by_cases habs : f.absolute? = some packageName
      · rcases htop (decide_eq_true habs) with hnone | hscope
        · obtain rfl : new = [] := List.subset_nil.1 (hnone ▸ hnew)
          rw [Small.receive_nil]
          exact hsame
        · have hgrown : (scanAliases [] f.origin as t).Grown names c k (scanAliases [] f.origin (new ++ as) t') := by
            rw [FromImport.origin_of_absolute habs]
            exact h.receive_aliases (fun a ha => hall a (hnew ha)) as
          simp only [Small.receive, himp, habs, if_true, scanSmall, Imported.aliases, hscope]
          exact hgrown
      · simpa only [Small.receive, himp, habs, if_false] using hsame
  | _ => exact hsame

theorem receiveItems_grown {p : Place} {is : List Item} (htop : ∀ y ∈ gatherItems placedSmalls p.scope is,
    y.2.fromPackage = true → all = [] ∨ y.1 = []) : ∀ new ⊆ all, ∀ t t' : Table, t.Grown names c k t' →
    (scanItems onText p is t).Grown names c k (scanItems onText p (receiveItems new is).1 t') ∧
      (receiveItems new is).2 ⊆ all := by
  induction is with
  | nil => exact fun new hnew t t' h => ⟨h, hnew⟩
  | cons i is ih =>
    intro new hnew t t' h
    rw [gatherItems, List.flatMap_cons, List.forall_mem_append] at htop
    have hfirst := Small.receive_grown ht hall (htop.1 (p.scope, i.stmt) (List.mem_singleton_self _)) hnew h
    exact ih htop.2 _ (List.Subset.trans (i.stmt.receive_rest new) hnew) _ _ hfirst

/-- Names that a node receives at the top level leave its table grown by them. -/
theorem Node.receive_grown (n : Node) : ∀ p : Place, (∀ y ∈ n.gather placedSmalls p.scope, y.2.fromPackage = true →
    all = [] ∨ y.1 = []) → ∀ new ⊆ all, ∀ t t' : Table, t.Grown names c k t' →
    (n.scan onText p t).Grown names c k ((n.receive new).scan onText p t') ∧ n.receiveRest new ⊆ all := by
  have hR := ht.lasting
  induction n using Node.induct with
  | line l => exact fun p htop new hnew t t' h => receiveItems_grown ht hall htop new hnew t t' h
  | inline o is tr => exact fun p htop new hnew t t' h => receiveItems_grown ht hall htop new hnew t t' h
  | compound cs ih | block o i xs f ih => exact ih
  | funcDef head b ih | classDef head b ih =>
    intro p htop new hnew t t' h
    have hbody := ih (p.inside (head.frame :: p.scope)) htop new hnew
    have haround := head.scanAround_related ht p (fun t t' h => (hbody t t' h).1) t t' h
    exact ⟨hR.tick p.scope haround, (hbody t t' h).2⟩
  | noClause | noStmt => exact fun p htop new hnew t t' h => ⟨h, hnew⟩
  | clause head b cs ihb ihc =>
    intro p htop new hnew t t' h
    have htop : ∀ y ∈ b.gather placedSmalls p.scope ++ gatherClauses placedSmalls p.scope cs, y.2.fromPackage = true →
        all = [] ∨ y.1 = [] := htop
    rw [List.forall_mem_append] at htop
    obtain ⟨hbody, hrest⟩ := ihb p htop.1 new hnew _ _ (scanHeader_parallel ht p head.header _ _ h)
    exact ihc p htop.2 _ hrest _ _ hbody
  | next x xs ihx ihxs =>
    intro p htop new hnew t t' h
    have htop : ∀ y ∈ x.gather placedSmalls p.scope ++ gatherStmts placedSmalls p.scope xs, y.2.fromPackage = true →
        all = [] ∨ y.1 = [] := htop
    rw [List.forall_mem_append] at htop
    obtain ⟨hfirst, hrest⟩ := ihx p htop.1 new hnew _ _ h
    exact ihxs p htop.2 _ hrest _ _ hfirst

end

/-- Where names are received at the top level only, added imports leave the table of a module grown by them. -/
theorem addImports_grown {m m' : Module} {needs : List Need} (h : m.addImports needs = .ok m')
    (hnames : ∀ name ∈ (m.imports.missing needs).objects, '.' ∉ name.toList)
    (htop : ∀ y ∈ m.gather placedSmalls, y.2.fromPackage = true → m.newNames needs = [] ∨ y.1 = []) :
    ∃ c k, m.table.Grown (m.imports.missing needs).names c k m'.table := by
  obtain ⟨i, -, body, back, rfl, rfl, hback⟩ := addImports_body h
  have hnew : ∀ a ∈ m.newNames needs, a.IsNew (m.imports.missing needs).names := by
    intro a ha
    obtain ⟨name, hname, rfl⟩ := List.mem_map.1 ha
    exact ⟨name, List.mem_append_right _ hname, hnames name hname, rfl⟩
  have hpackage : (m.imports.missing needs).package = true → packageName ∈ (m.imports.missing needs).names :=
    fun hp => List.mem_append_left _ (by simp [hp])
  have hsplit : m.gather placedSmalls =
      gatherStmts placedSmalls [] (m.body.take i) ++ gatherStmts placedSmalls [] (m.body.drop i) := by
    rw [← gatherStmts_append, List.take_append_drop]
    rfl
  rw [hsplit, List.forall_mem_append] at htop
  have htexts := fun c k => scanHintText_parallel (Table.Grown.lasting (m.imports.missing needs).names c k)
  -- the statements before the new lines
  obtain ⟨hfront, hleft⟩ := Node.receive_grown (htexts 0 0) hnew (.stmts (m.body.take i)) .top htop.1 _ (List.Subset.refl _)
    _ _ (.refl _ (.empty m.sites))
  have htimely := scanStmts_timely (m.body.take i) (t := .empty m.sites) ⟨fun _ ha => (nomatch ha), fun _ hx => (nomatch hx)⟩
  have hrest : (receiveStmts (m.newNames needs) m.body).2 ⊆ m.newNames needs := by
    rw [(receiveStmts_split i m.body _).2.2]
    exact (Node.receive_grown (htexts 0 0) hnew (.stmts (m.body.drop i)) .top htop.2 _ hleft _ _ (.refl _ (.empty 0))).2
  -- the new lines
  have hlines : ∀ a ∈ (receiveStmts (m.newNames needs) m.body).2, a.IsNew (m.imports.missing needs).names :=
    fun a ha => hnew a (hrest ha)
  have hbeside := newImports_beside scanHintText (fun name hname => (Alias.bound_of_new hlines name hname).2)
    (m.imports.missing needs).package
  obtain ⟨k, hadds⟩ := newImports_adds scanHintText hpackage hlines _
  have hinsert := hfront.insert htimely (hbeside _) hadds
  -- the statements after them
  obtain ⟨hwhole, -⟩ := Node.receive_grown (htexts _ k) hnew (.stmts (m.body.drop i)) .top htop.2 _ hleft _ _ hinsert
  have hscan : m.table = scanStmts scanHintText .top (m.body.drop i) (scanStmts scanHintText .top (m.body.take i)
      (.empty m.sites)) := by
    rw [← scanStmts_append, List.take_append_drop]
    rfl
  refine ⟨(scanStmts scanHintText .top (m.body.take i) (.empty m.sites)).clock [], k, ?_⟩
  rw [hscan, Module.table, scanStmts_append, scanStmts_append]
  rcases hback with rfl | rfl
  · exact hwhole
  · rw [scanStmts_setApart]
    exact hwhole

/-! ## Imports in use -/

section
variable {c k : Nat} {a a' : Assignment} (h : a.Alike a') (ha : Shifted c k a.scope a.time a'.time) {x x' : Access}
  (hscope : x'.scope = x.scope) (hx : Shifted c k x.scope x.time x'.time)
include h ha hscope hx

theorem Assignment.Alike.precedes (hp : a.precedes x = true) : a'.precedes x' = true := by
  simp only [Assignment.precedes, Bool.or_eq_true, decide_eq_true_eq, h.scope, hscope] at hp ⊢
  by_cases hs : a.scope = x.scope
  · exact .inr ((hs ▸ ha).lt hx (hp.resolve_left fun hne => hne hs))
  · exact .inl hs

/-- Inside of definitions the times are the same. -/
theorem Assignment.Alike.not_precedes (hinner : x.scope ≠ []) (hp : a.precedes x = false) : a'.precedes x' = false := by
  simp only [Assignment.precedes, Bool.or_eq_false_iff, decide_eq_false_iff_not, not_not, h.scope, hscope] at hp ⊢
  rw [Shifted, if_neg hinner] at hx
  rw [Shifted, if_neg (hp.1 ▸ hinner)] at ha
  rw [ha, hx]
  exact hp

end

namespace Table.Grown
variable {names : List String} {c k : Nat} {t t' : Table} (h : t.Grown names c k t')
include h

theorem own_isEmpty {name : String} (hn : name ∉ names) (s : Scope) : (t'.own s name).isEmpty = (t.own s name).isEmpty := by
  rw [Bool.eq_iff_iff, List.isEmpty_iff, List.isEmpty_iff]
  constructor
  · intro hnil
    refine List.eq_nil_iff_forall_not_mem.2 fun a ha => ?_
    obtain ⟨a', ha', halike, -⟩ := h.assigned a (List.mem_filter.1 ha).1
    exact List.ne_nil_of_mem (halike.mem_own ha ha') hnil
  · intro hnil
    refine List.eq_nil_iff_forall_not_mem.2 fun a' ha' => ?_
    obtain ⟨hmem, hown⟩ := List.mem_filter.1 ha'
    obtain ⟨hname, hscope⟩ := of_decide_eq_true hown
    rcases h.new a' hmem with hnew | ⟨a, ha, halike⟩
    · exact hn (hname ▸ hnew)
    · have : a ∈ t.own s name := List.mem_filter.2 ⟨ha, by simp [← halike.name, ← halike.scope, hname, hscope]⟩
      exact List.ne_nil_of_mem this hnil

theorem lookup_isEmpty {name : String} (hn : name ∉ names) (s : Scope) :
    (t'.lookup s name).isEmpty = (t.lookup s name).isEmpty := by
  obtain ⟨z, hold, hnew⟩ := h.beside.lookup_own s name
  rw [hold, hnew, h.own_isEmpty hn]

/-- An access that may not mean a new name means what it did. -/
theorem accessed_eq {x x' : Access} (hpaths : x'.paths = x.paths) (hscope : x'.scope = x.scope)
    (hx : ∀ p ∈ x.paths, p ∉ names) : t'.accessed x' = t.accessed x := by
  have hfilter : (x.paths.filter fun p => !(t'.lookup x.scope p).isEmpty) =
      x.paths.filter fun p => !(t.lookup x.scope p).isEmpty :=
    List.filter_congr fun p hp => by rw [h.lookup_isEmpty (hx p hp)]
  unfold Table.accessed
  rw [hpaths, hscope, ← List.head?_filter, ← List.head?_filter, hfilter]

theorem mem_references {x x' : Access} (hpaths : x'.paths = x.paths) (hscope : x'.scope = x.scope)
    (hshift : Shifted c k x.scope x.time x'.time) (hx : ∀ p ∈ x.paths, p ∉ names)
    {a a' : Assignment} (ha : a ∈ t.references x) (ha' : a' ∈ t'.assignments) (halike : a.Alike a')
    (htime : Shifted c k a.scope a.time a'.time) : a' ∈ t'.references x' := by
  rw [Table.mem_references_iff, h.accessed_eq hpaths hscope hx, hscope]
  rcases Table.mem_references_iff.1 ha with ⟨hfound, hp⟩ | ⟨f, outer, hs, hfound, b, hb, hbp⟩
  · exact .inl ⟨h.beside.mem_lookup hfound ha' halike, halike.precedes htime hscope hshift hp⟩
  · -- what comes later in the scope of the access does so in both tables
    obtain ⟨b', hb', hblike, hbt⟩ := h.assigned b (Table.mem_lookup hb).1
    exact .inr ⟨f, outer, hs, h.beside.mem_lookup hfound ha' halike, b', h.beside.mem_lookup hb hb' hblike,
      hblike.not_precedes hbt hscope hshift (by simp [hs]) hbp⟩

/-- An import stays in use, if no access may mean a new name. -/
theorem importInUse {s : Scope} {name : String} (hx : ∀ x ∈ t.accesses, ∀ p ∈ x.paths, p ∉ names)
    (hu : t.importInUse s name = true) : t'.importInUse s name = true := by
  obtain ⟨a, ha, hused⟩ := List.any_eq_true.1 hu
  obtain ⟨hsource, hreferenced⟩ := Bool.and_eq_true_iff.1 hused
  obtain ⟨x, hxm, href⟩ := List.any_eq_true.1 hreferenced
  obtain ⟨a', ha', halike, htime⟩ := h.assigned a (Table.mem_lookup ha).1
  obtain ⟨x', hxm', hpaths, hscope, hshift⟩ := h.accessed x hxm
  have href := List.contains_iff_mem.1 href
  have href' := h.mem_references hpaths hscope hshift (hx x hxm) href ha' halike htime
  have hsource' : a'.source.isSome = true := halike.imported.trans hsource
  refine List.any_eq_true.2 ⟨a', h.beside.mem_lookup ha ha' halike, ?_⟩
  rw [hsource', Bool.true_and]
  exact List.any_eq_true.2 ⟨x', hxm', List.contains_iff_mem.2 href'⟩

end Table.Grown

end AttrsUpgrade
