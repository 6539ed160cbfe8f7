import AttrsUpgrade.Proofs.Accesses
/-!
# Tables beside each other

What the scan of a module finds hangs on what it found before, since strings are read as type hints where something of `typing`
is subscripted or called. An import at the top level that brings nothing of `typing` does not change that: two tables that differ
only by such imports and by the time of things (`Table.Beside`) still do so after any further statement, and then hold the same
accesses. The same is true of any closer relation that single steps keep (`Lasting`, `Node.scan_parallel`).
-/

namespace AttrsUpgrade

/-! ## What has nothing to do with typing -/

/-- The qualified name begins like those of `typing`. -/
def IsTyping (q : String) : Prop := q.toList.head? = some 't'

instance (q : String) : Decidable (IsTyping q) := inferInstanceAs (Decidable (_ = _))

theorem isTyping_of_beginning {beginning q : String} (hb : IsTyping beginning)
    (h : beginning.toList.isPrefixOf q.toList = true) : IsTyping q := by
  obtain ⟨rest, hrest⟩ := List.isPrefixOf_iff_prefix.1 h
  unfold IsTyping at hb ⊢
  rw [← hrest, List.head?_append, hb]
  rfl

/-- An assignment at the top level that gives no path a name of `typing`. -/
structure Assignment.IsMute (a : Assignment) : Prop where
  scope : a.scope = []
  name : '.' ∉ a.name.toList
  silent : ∀ path, a.name ∈ pathBeginnings path → ∀ q ∈ a.qualify path, ¬IsTyping q

/-- Two assignments that mean the same as far as `typing` goes, apart from when they happen. -/
structure Assignment.Alike (a a' : Assignment) : Prop where
  name : a'.name = a.name
  scope : a'.scope = a.scope
  imported : a'.source.isSome = a.source.isSome
  typing : ∀ path, a.name ∈ pathBeginnings path → ∀ q, IsTyping q → (q ∈ a'.qualify path ↔ q ∈ a.qualify path)

/-- The qualified names that a `from` import gives begin like the module it imports from. -/
theorem ImportedName.head_of_origin {n : ImportedName} {origin path q : String} {c : Char} (ho : origin.toList.head? = some c)
    (h : n.qualify? origin path = some q) : q.toList.head? = some c := by
  obtain ⟨b, -, rfl⟩ := Option.map_eq_some_iff.1 h
  have hbase : ∀ {base : String} (rest : String), base.toList.head? = some c → (base ++ rest).toList.head? = some c := by
    intro base rest h
    rw [String.toList_append, List.head?_append, h]
    rfl
  have hfilled : origin.isEmpty = false := by
    rw [Bool.eq_false_iff, ne_eq, String.isEmpty_iff]
    rintro rfl
    cases ho
  simp only [hfilled, Bool.false_eq_true, if_false]
  split
  · split
    · exact hbase _ ho
    · exact hbase _ (hbase _ ho)
  · split
    · exact hbase _ (hbase _ (hbase _ ho))
    · exact hbase _ (hbase _ (hbase _ (hbase _ ho)))

/-- A module is of `typing` only if a beginning of its path is, by which or by whose new name the path begins. -/
theorem ImportedName.typing_of_module {n : ImportedName} {path q : String} (h : n.qualify? "" path = some q) (ht : IsTyping q) :
    ∃ b ∈ n.beginnings, IsTyping b ∧ (n.renamed.getD b).toList.isPrefixOf path.toList = true := by
  obtain ⟨b, hb, rfl⟩ := Option.map_eq_some_iff.1 h
  have hprefix := List.find?_some hb
  refine ⟨b, List.mem_of_find?_eq_some hb, ?_, hprefix⟩
  have hempty : "".isEmpty = true := rfl
  simp only [IsTyping, hempty, if_true] at ht ⊢
  split at ht
  · exact ht
  · cases hh : b.toList.head? with
    | none => simp [String.toList_append, List.head?_append, hh] at ht
    | some c => simpa [String.toList_append, List.head?_append, hh] using ht

/-- The import statements of the package as name resolution sees them. -/
def ImportSource.IsPackage (i : ImportSource) : Prop := i.origin = packageName ∨ i = ⟨"", [⟨[packageName], none⟩]⟩

/-- What an import of the package gives to a path is in the package. -/
theorem ImportSource.IsPackage.silent {i : ImportSource} (h : i.IsPackage) {a : Assignment} (ha : a.source = some i)
    {path q : String} (hq : q ∈ a.qualify path) : ¬IsTyping q := by
  simp only [Assignment.qualify, ha, List.mem_filterMap] at hq
  obtain ⟨n, hn, hq⟩ := hq
  rcases h with horigin | rfl
  · have hhead : q.toList.head? = some 'a' := ImportedName.head_of_origin (horigin ▸ by decide) hq
    simp [IsTyping, hhead]
  · obtain rfl := List.mem_singleton.1 hn
    intro ht
    obtain ⟨b, hb, htb, -⟩ := ImportedName.typing_of_module hq ht
    obtain rfl := List.mem_singleton.1 hb
    exact absurd htb (by decide)

/-! ## Paths -/

theorem pathBeginningsFrom_dotted (cs : List Char) :
    ∀ front, '.' ∈ front → ∀ b ∈ pathBeginningsFrom front cs, '.' ∈ b.toList := by
  induction cs with
  | nil =>
    intro front hfront b hb
    obtain rfl := List.mem_singleton.1 hb
    simpa using hfront
  | cons c cs ih =>
    intro front hfront b hb
    rw [pathBeginningsFrom] at hb
    split at hb
    · rcases List.mem_cons.1 hb with rfl | hb
      · simpa using hfront
      · exact ih _ (List.mem_cons_of_mem _ hfront) b hb
    · exact ih _ (List.mem_cons_of_mem _ hfront) b hb

theorem pathBeginningsFrom_tail (cs : List Char) : ∀ front, ∀ b ∈ (pathBeginningsFrom front cs).tail, '.' ∈ b.toList := by
  induction cs with
  | nil => simp [pathBeginningsFrom]
  | cons c cs ih =>
    intro front b hb
    rw [pathBeginningsFrom] at hb
    split at hb
    · next hc =>
      subst hc
      exact pathBeginningsFrom_dotted cs _ List.mem_cons_self b hb
    · exact ih _ b hb

/-- Of the beginnings of a path only the shortest, which comes last, has no dot. -/
theorem dotted_of_pathBeginnings {path b b' : String} {longer shorter : List String}
    (h : pathBeginnings path = longer ++ b :: shorter) (hb' : b' ∈ longer) : '.' ∈ b'.toList := by
  refine pathBeginningsFrom_tail path.toList [] b' ?_
  have hrev : pathBeginningsFrom [] path.toList = shorter.reverse ++ b :: longer.reverse := by
    rw [← List.reverse_reverse (pathBeginningsFrom [] path.toList), ← pathBeginnings, h]
    simp
  rw [hrev]
  cases hs : shorter.reverse with
  | nil => simpa using hb'
  | cons z zs => simp [hb']

/-! ## Tables -/

/-- Every assignment but those that are mute has its like in the other list. -/
def Covers (as as' : List Assignment) : Prop := ∀ a ∈ as, a.IsMute ∨ ∃ a' ∈ as', a.Alike a'

/-- Two tables that differ only by mute assignments at the top level and by the time of things. -/
structure Table.Beside (t t' : Table) : Prop where
  assigned : Covers t.assignments t'.assignments
  assigned' : Covers t'.assignments t.assignments
  accesses : t'.accesses.map Access.paths = t.accesses.map Access.paths
  redirects : t'.redirects = t.redirects
  sites : t'.sites = t.sites
  fresh : t'.fresh = t.fresh
  error : t'.error = t.error

namespace Assignment.Alike
variable {a a' : Assignment}

theorem of_source (hname : a'.name = a.name) (hscope : a'.scope = a.scope) (hsource : a'.source = a.source) : a.Alike a' where
  name := hname
  scope := hscope
  imported := by rw [hsource]
  typing path _ q _ := by rw [Assignment.qualify, Assignment.qualify, hsource, hscope]

theorem of_package (hname : a'.name = a.name) (hscope : a'.scope = a.scope) {i i' : ImportSource} (ha : a.source = some i)
    (ha' : a'.source = some i') (hi : i.IsPackage) (hi' : i'.IsPackage) : a.Alike a' where
  name := hname
  scope := hscope
  imported := by rw [ha, ha']; rfl
  typing path _ q ht := iff_of_false (fun hq => hi'.silent ha' hq ht) fun hq => hi.silent ha hq ht

theorem refl (a : Assignment) : a.Alike a := .of_source rfl rfl rfl

theorem symm (h : a.Alike a') : a'.Alike a where
  name := h.name.symm
  scope := h.scope.symm
  imported := h.imported.symm
  typing path hp q ht := (h.typing path (h.name ▸ hp) q ht).symm

theorem trans {a'' : Assignment} (h : a.Alike a') (h' : a'.Alike a'') : a.Alike a'' where
  name := h'.name.trans h.name
  scope := h'.scope.trans h.scope
  imported := h'.imported.trans h.imported
  typing path hp q ht := (h'.typing path (h.name ▸ hp) q ht).trans (h.typing path hp q ht)

theorem isMute (h : a.Alike a') (ha : a'.IsMute) : a.IsMute where
  scope := h.scope ▸ ha.scope
  name := h.name ▸ ha.name
  silent path hp q hq ht := ha.silent path (h.name ▸ hp) q ((h.typing path hp q ht).2 hq) ht

end Assignment.Alike

theorem Covers.refl (as : List Assignment) : Covers as as := fun a ha => .inr ⟨a, ha, .refl a⟩

theorem Covers.trans {as as' as'' : List Assignment} (h : Covers as as') (h' : Covers as' as'') : Covers as as'' := by
  intro a ha
  rcases h a ha with hm | ⟨a', ha', hlike⟩
  · exact .inl hm
  · rcases h' a' ha' with hm | ⟨a'', ha'', hlike'⟩
    · exact .inl (hlike.isMute hm)
    · exact .inr ⟨a'', ha'', hlike.trans hlike'⟩

theorem Assignment.Alike.mem_own {t t' : Table} {s : Scope} {name : String} {a a' : Assignment} (h : a.Alike a')
    (ha : a ∈ t.own s name) (ha' : a' ∈ t'.assignments) : a' ∈ t'.own s name := by
  refine List.mem_filter.2 ⟨ha', ?_⟩
  simpa only [h.name, h.scope] using (List.mem_filter.1 ha).2

namespace Table.Beside
variable {t t' : Table} (h : t.Beside t')

theorem refl (t : Table) : t.Beside t := ⟨.refl _, .refl _, rfl, rfl, rfl, rfl, rfl⟩

include h

theorem symm : t'.Beside t :=
  ⟨h.assigned', h.assigned, h.accesses.symm, h.redirects.symm, h.sites.symm, h.fresh.symm, h.error.symm⟩

theorem trans {t'' : Table} (h' : t'.Beside t'') : t.Beside t'' :=
  ⟨h.assigned.trans h'.assigned, h'.assigned'.trans h.assigned', h'.accesses.trans h.accesses,
    h'.redirects.trans h.redirects, h'.sites.trans h.sites, h'.fresh.trans h.fresh, h'.error.trans h.error⟩

theorem reach?_eq (s : Scope) (name : String) : t'.reach? s name = t.reach? s name := by
  unfold Table.reach?
  rw [h.redirects]

theorem own_covers (s : Scope) (name : String) : Covers (t.own s name) (t'.own s name) := by
  intro a hmem
  rcases h.assigned a (List.mem_filter.1 hmem).1 with hp | ⟨a', ha', halike⟩
  · exact .inl hp
  · exact .inr ⟨a', halike.mem_own hmem ha', halike⟩

/-- Mute assignments stand at the top level, so nothing inside of definitions can be there in one table only. -/
theorem own_isEmpty_of (f : Frame) (fs : Scope) (name : String) (he : (t'.own (f :: fs) name).isEmpty = true) :
    (t.own (f :: fs) name).isEmpty = true := by
  rw [List.isEmpty_iff] at he ⊢
  refine List.eq_nil_iff_forall_not_mem.2 fun a ha => ?_
  rcases h.own_covers (f :: fs) name a ha with hp | ⟨a', ha', -⟩
  · have hscope := (of_decide_eq_true (List.mem_filter.1 ha).2).2
    rw [hp.scope] at hscope
    cases hscope
  · rw [he] at ha'
    cases ha'

theorem own_isEmpty (f : Frame) (fs : Scope) (name : String) :
    (t'.own (f :: fs) name).isEmpty = (t.own (f :: fs) name).isEmpty := by
  rw [Bool.eq_iff_iff]
  exact ⟨h.own_isEmpty_of f fs name, h.symm.own_isEmpty_of f fs name⟩

/-- A name is looked up in the same scope in both tables: the look-up stops at the first that has it. -/
theorem lookup_own (s : Scope) (name : String) : ∃ z, t.lookup s name = t.own z name ∧ t'.lookup s name = t'.own z name := by
  have hfrom : ∀ (s : Scope) nested,
      ∃ z, t.lookupFrom name nested s = t.own z name ∧ t'.lookupFrom name nested s = t'.own z name := by
    intro s
    induction s with
    | nil => exact fun _ => ⟨[], rfl, rfl⟩
    | cons f fs ih =>
      intro nested
      rw [Table.lookupFrom, Table.lookupFrom, h.reach?_eq, h.own_isEmpty]
      split
      · exact ih true
      · split
        · exact ⟨[], rfl, rfl⟩
        · exact ih true
        · split
          · exact ih true
          · exact ⟨f :: fs, rfl, rfl⟩
  exact hfrom s false

theorem lookup_covers (s : Scope) (name : String) : Covers (t.lookup s name) (t'.lookup s name) := by
  obtain ⟨z, hz, hz'⟩ := h.lookup_own s name
  rw [hz, hz']
  exact h.own_covers z name

/-- What is alike is found alike. -/
theorem mem_lookup {s : Scope} {name : String} {a a' : Assignment} (ha : a ∈ t.lookup s name) (ha' : a' ∈ t'.assignments)
    (halike : a.Alike a') : a' ∈ t'.lookup s name := by
  obtain ⟨z, hz, hz'⟩ := h.lookup_own s name
  rw [hz']
  exact halike.mem_own (hz ▸ ha) ha'

/-- A dotted beginning of a path is assigned to in both tables or in none. -/
theorem lookup_eq_nil {s : Scope} {b : String} (hb : '.' ∈ b.toList) (hn : t.lookup s b = []) : t'.lookup s b = [] := by
  refine List.eq_nil_iff_forall_not_mem.2 fun a ha => ?_
  rcases h.symm.lookup_covers s b a ha with hp | ⟨a', ha', -⟩
  · exact hp.name ((Table.mem_lookup ha).2 ▸ hb)
  · rw [hn] at ha'
    cases ha'

theorem mem_qualifiedNames {s : Scope} {path q : String} (ht : IsTyping q) (hq : q ∈ t.qualifiedNames s path) :
    q ∈ t'.qualifiedNames s path := by
  unfold Table.qualifiedNames at hq ⊢
  split at hq
  · next b hfind =>
    obtain ⟨a, ha, hqa⟩ := List.mem_flatMap.1 hq
    have hpath : a.name ∈ pathBeginnings path := (Table.mem_lookup ha).2 ▸ List.mem_of_find?_eq_some hfind
    rcases h.lookup_covers s b a ha with hm | ⟨a', ha', halike⟩
    · exact absurd ht (hm.silent path hpath q hqa)
    · -- the other table finds the same beginning of the path
      obtain ⟨-, longer, shorter, hbeginnings, hlonger⟩ := List.find?_eq_some_iff_append.1 hfind
      have hfind' : (pathBeginnings path).find? (fun b => !(t'.lookup s b).isEmpty) = some b := by
        refine List.find?_eq_some_iff_append.2 ⟨?_, longer, shorter, hbeginnings, fun b' hb' => ?_⟩
        · cases hl : t'.lookup s b with
          | nil =>
            rw [hl] at ha'
            cases ha'
          | cons => rfl
        · have hnil : t.lookup s b' = [] := by simpa using hlonger b' hb'
          simp [h.lookup_eq_nil (dotted_of_pathBeginnings hbeginnings hb') hnil]
      rw [hfind']
      exact List.mem_flatMap.2 ⟨a', ha', (halike.typing path hpath q ht).2 hqa⟩
  · cases hq

/-- A path has the same qualified names of `typing`. -/
theorem any_qualifiedNames (s : Scope) (path : String) {P : String → Bool} (hP : ∀ q, P q = true → IsTyping q) :
    (t'.qualifiedNames s path).any P = (t.qualifiedNames s path).any P := by
  rw [Bool.eq_iff_iff]
  simp only [List.any_eq_true]
  constructor
  · rintro ⟨q, hq, hPq⟩
    exact ⟨q, h.symm.mem_qualifiedNames (hP q hPq) hq, hPq⟩
  · rintro ⟨q, hq, hPq⟩
    exact ⟨q, h.mem_qualifiedNames (hP q hPq) hq, hPq⟩

theorem contains_qualifiedNames (s : Scope) (path : String) {q : String} (ht : IsTyping q) :
    (t'.qualifiedNames s path).contains q = (t.qualifiedNames s path).contains q := by
  rw [List.contains_eq_any_beq, List.contains_eq_any_beq]
  refine h.any_qualifiedNames s path fun q' hq' => ?_
  rwa [← eq_of_beq hq']

theorem contains_namesOf (s : Scope) (e : Expr) {q : String} (ht : IsTyping q) :
    (t'.namesOf s e).contains q = (t.namesOf s e).contains q := by
  unfold Table.namesOf
  split
  · exact h.contains_qualifiedNames s _ ht
  · rfl

theorem callKind_eq (s : Scope) (e : Expr) : CallKind.of (t'.namesOf s e) = CallKind.of (t.namesOf s e) := by
  unfold CallKind.of
  rw [h.contains_namesOf s e (q := "typing.NewType") (by decide), h.contains_namesOf s e (q := "typing.TypeVar") (by decide),
    h.contains_namesOf s e (q := "typing.cast") (by decide)]

theorem subscript_eq (p : Place) (e : Expr) : p.subscript t' e = p.subscript t e := by
  unfold Place.subscript
  split
  · next n hn =>
    simp only
    rw [h.any_qualifiedNames, h.contains_qualifiedNames _ _ (by decide), h.contains_qualifiedNames _ _ (by decide)]
    intro q hq
    rw [Bool.or_eq_true] at hq
    rcases hq with hq | hq
    · exact isTyping_of_beginning (by decide) hq
    · exact isTyping_of_beginning (by decide) hq
  · rfl

end Table.Beside

/-! ## Steps of the scan -/

/-- A relation between tables beside each other that lasts if both go on alike. -/
structure Lasting (R : Table → Table → Prop) : Prop where
  beside {t t' : Table} : R t t' → t.Beside t'
  place {t t' : Table} (s : Scope) (site : Nat) : R t t' → R (t.place s site) (t'.place s site)
  access {t t' : Table} (s : Scope) (paths : List String) : R t t' → R (t.access s paths) (t'.access s paths)
  tick {t t' : Table} (s : Scope) : R t t' → R (t.tick s) (t'.tick s)
  fail {t t' : Table} (e : ResolveError) : R t t' → R (t.fail e) (t'.fail e)
  renumber {t t' : Table} (n : Nat) : R t t' → R { t with fresh := n } { t' with fresh := n }
  redirect {t t' : Table} (s : Scope) (reach : Reach) (name : String) :
    R t t' → R (t.redirect s reach name) (t'.redirect s reach name)
  assign {t t' : Table} (s : Scope) (name : String) (source : Option ImportSource) :
    R t t' → R (t.assign s name source) (t'.assign s name source)

theorem Covers.cons {as as' : List Assignment} {a a' : Assignment} (halike : a.Alike a') (h : Covers as as') :
    Covers (a :: as) (a' :: as') := by
  intro b hb
  rcases List.mem_cons.1 hb with rfl | hb
  · exact .inr ⟨a', List.mem_cons_self, halike⟩
  · exact (h b hb).imp_right fun ⟨b', hb', hm⟩ => ⟨b', List.mem_cons_of_mem _ hb', hm⟩

theorem Table.Beside.home_eq {t t' : Table} (h : t.Beside t') (name : String) (s : Scope) : t'.home name s = t.home name s := by
  unfold Table.home
  rw [h.reach?_eq]

theorem Table.Beside.lasting : Lasting Table.Beside where
  beside h := h
  place s site h := { h with sites := congrArg (List.cons (site, s)) h.sites }
  access s paths h := { h with accesses := congrArg (List.cons paths) h.accesses }
  tick s h := { h with }
  fail e h := { h with error := by simp only [Table.fail, h.error] }
  renumber n h := { h with fresh := rfl }
  redirect s reach name h := by
    unfold Table.redirect
    split
    · exact h
    · exact { h with error := by simp only [Table.fail, h.error] }
    · exact { h with redirects := congrArg (List.cons _) h.redirects }
  assign s name source h := by
    have hhome := h.home_eq name s
    exact { h with
      assigned := .cons (.of_source rfl hhome rfl) h.assigned
      assigned' := .cons (.of_source rfl hhome.symm rfl) h.assigned' }

/-- The step keeps the relation. -/
def Parallel (R : Table → Table → Prop) (f : Table → Table) : Prop := ∀ t t', R t t' → R (f t) (f t')

namespace Parallel
variable {R : Table → Table → Prop} {f g : Table → Table}

theorem id : Parallel R fun t => t := fun _ _ h => h

theorem comp (hg : Parallel R g) (hf : Parallel R f) : Parallel R fun t => g (f t) := fun t t' h => hg _ _ (hf t t' h)

theorem tick (hf : Parallel R f) (hR : Lasting R) (s : Scope) : Parallel R fun t => (f t).tick s :=
  fun t t' h => hR.tick s (hf t t' h)

theorem assign (hR : Lasting R) (s : Scope) (name : String) (source : Option ImportSource) :
    Parallel R fun t => t.assign s name source := fun _ _ => hR.assign s name source

theorem foldl {α : Type} {step : α → Table → Table} (hstep : ∀ x, Parallel R (step x)) (xs : List α) :
    Parallel R fun t => xs.foldl (fun t x => step x t) t := by
  induction xs with
  | nil => exact id
  | cons x xs ih => exact ih.comp (hstep x)

theorem elim {α : Type} {step : α → Table → Table} (hstep : ∀ x, Parallel R (step x)) (o : Option α) :
    Parallel R fun t => o.elim t fun x => step x t := by
  cases o with
  | none => exact id
  | some x => exact hstep x

end Parallel

/-- The scan of a function around its body, up to the end of the statement. -/
def FuncHead.scanAround (onText : Place → String → Table → Table) (p : Place) (h : FuncHead) (body : Table → Table) (t : Table) :
    Table :=
  let t := (scanParams onText p (h.frame :: p.scope) h.params (t.assign p.scope h.name.text none)).tick (h.frame :: p.scope)
  let t := scanDecorators onText p h.decorators (body t)
  h.returns.elim t fun a => scanExpr onText p.hint a.expr t

/-- The scan of a class around its body, up to the end of the statement. -/
def ClassHead.scanAround (onText : Place → String → Table → Table) (p : Place) (h : ClassHead) (body : Table → Table)
    (t : Table) : Table :=
  let t := scanDecorators onText p h.decorators (t.assign p.scope h.name.text none)
  body (h.args.elim t fun a => a.args.foldl (fun t x => scanExpr onText p x.value t) t)

section
variable {R : Table → Table → Prop} {onText : Place → String → Table → Table}

/-- Steps of the scan and texts keep the relation. -/
structure ParallelTexts (R : Table → Table → Prop) (onText : Place → String → Table → Table) : Prop where
  lasting : Lasting R
  texts : ∀ p text, Parallel R (onText p text)

theorem scanLiteral_parallel (ht : ParallelTexts R onText) (p : Place) (e : Expr) {f : Table → Table} (hf : Parallel R f) :
    Parallel R fun t => (scanLiteral? onText p e t).getD (f t) := by
  intro t t' h
  simp only [scanLiteral?]
  split
  · split
    · exact hf t t' h
    · exact ht.lasting.fail _ h
    · split
      · exact hf t t' h
      · split
        · exact ht.texts p _ t t' h
        · exact ht.lasting.fail _ h
  · exact hf t t' h

theorem scanName_parallel (hR : Lasting R) (p : Place) (n : Name) : Parallel R (scanName p n) := by
  intro t t' h
  unfold scanName
  by_cases hs : (p.store && !p.quoted) = true
  · simp only [hs, if_true]
    exact hR.assign p.scope n.text none (hR.place _ _ h)
  · simp only [hs]
    exact hR.access p.scope _ (hR.place _ _ h)

mutual

theorem scanExpr_parallel (ht : ParallelTexts R onText) : ∀ (p : Place) (e : Expr), Parallel R (scanExpr onText p e)
  | p, .name n => scanName_parallel ht.lasting p n
  | p, .literal _ => .id
  | p, .string s => scanLiteral_parallel ht p (.string s) .id
  | p, .fstring ps => scanPieces_parallel ht p ps
  | p, .concat l g r => by
    have hscan := scanLiteral_parallel ht p (.concat l g r) ((scanExpr_parallel ht p r).comp (scanExpr_parallel ht p l))
    have heq : scanExpr onText p (.concat l g r) = fun t =>
        (scanLiteral? onText p (.concat l g r) t).getD (scanExpr onText p r (scanExpr onText p l t)) := by
      funext t
      simp only [scanExpr]
      cases scanLiteral? onText p (.concat l g r) t <;> rfl
    rw [heq]
    exact hscan
  | p, .paren _ e _ => scanExpr_parallel ht p e
  | p, .attribute v _ _ => scanExpr_parallel ht _ v
  | p, .call f o args c => by
    -- what is called decides how the arguments are read, and only names of `typing` decide that
    intro t t' h
    simp only [scanExpr, (ht.lasting.beside h).callKind_eq]
    exact scanArgs_parallel ht _ _ true args _ _ (scanExpr_parallel ht _ f t t' h)
  | p, .subscript v o ps c => by
    intro t t' h
    simp only [scanExpr, (ht.lasting.beside h).subscript_eq]
    exact scanPieces_parallel ht _ ps _ _ (scanExpr_parallel ht _ v t t' h)
  | p, .display _ _ ps _ => scanPieces_parallel ht p ps
  | p, .lambda site o ps c body => (scanExpr_parallel ht _ body).comp ((scanParams_parallel ht p _ ps).tick ht.lasting _)
  | p, .comprehension site o ps l ls c =>
    (scanPieces_parallel ht _ ps).comp ((scanLoops_parallel ht _ ls).comp (scanFirstLoop_parallel ht p _ l))
  | p, .walrus target _ v => ((scanExpr_parallel ht p v).comp (scanExpr_parallel ht p.target target)).tick ht.lasting p.scope
  | p, .operation ps => scanPieces_parallel ht p ps

theorem scanPiece_parallel (ht : ParallelTexts R onText) : ∀ (p : Place) (x : Piece), Parallel R (scanPiece onText p x)
  | _, .text _ => .id
  | p, .expr e => scanExpr_parallel ht p e

theorem scanPieces_parallel (ht : ParallelTexts R onText) : ∀ (p : Place) (ps : List Piece), Parallel R (scanPieces onText p ps)
  | _, [] => .id
  | p, x :: ps => (scanPieces_parallel ht p ps).comp (scanPiece_parallel ht p x)

theorem scanArg_parallel (ht : ParallelTexts R onText) : ∀ (p : Place) (a : Arg), Parallel R (scanArg onText p a)
  | p, ⟨_, v, _, _⟩ => scanExpr_parallel ht p v

theorem scanArgs_parallel (ht : ParallelTexts R onText) : ∀ (p : Place) (kind : CallKind) (first : Bool) (args : List Arg),
    Parallel R (scanArgs onText p kind first args)
  | _, _, _, [] => .id
  | p, kind, first, a :: as => by
    have hplain := scanArg_parallel ht p a
    have hhint := scanArg_parallel ht { p with typeHint := true } a
    have hrest := scanArgs_parallel ht p kind false as
    cases kind with
    | usual => exact hrest.comp hplain
    | typeVariable =>
      cases first with
      | true => exact hrest
      | false => exact hrest.comp hhint
    | cast =>
      cases first with
      | true => exact hrest.comp hhint
      | false => exact hrest.comp hplain

theorem scanParam_parallel (ht : ParallelTexts R onText) : ∀ (p : Place) (s : Scope) (x : Param),
    Parallel R (scanParam onText p s x)
  | _, _, .star _ => .id
  | _, _, .slash _ => .id
  | p, s, .named _ name hint value _ =>
    (scanPieces_parallel ht p.load.hint hint).comp
      ((scanPieces_parallel ht p.load value).comp (.assign ht.lasting s name.text none))

theorem scanParams_parallel (ht : ParallelTexts R onText) : ∀ (p : Place) (s : Scope) (ps : List Param),
    Parallel R (scanParams onText p s ps)
  | _, _, [] => .id
  | p, s, x :: ps => (scanParams_parallel ht p s ps).comp (scanParam_parallel ht p s x)

theorem scanFirstLoop_parallel (ht : ParallelTexts R onText) : ∀ (p q : Place) (l : Loop),
    Parallel R (scanFirstLoop onText p q l)
  | p, q, ⟨_, target, _, iter, conditions⟩ =>
    (scanPieces_parallel ht q conditions).comp
      (((scanExpr_parallel ht q.target target).comp (scanExpr_parallel ht p iter)).tick ht.lasting _)

theorem scanLoop_parallel (ht : ParallelTexts R onText) : ∀ (q : Place) (l : Loop), Parallel R (scanLoop onText q l)
  | q, ⟨_, target, _, iter, conditions⟩ =>
    (scanPieces_parallel ht q conditions).comp ((scanExpr_parallel ht q iter).comp (scanExpr_parallel ht q.target target))

theorem scanLoops_parallel (ht : ParallelTexts R onText) : ∀ (q : Place) (ls : List Loop), Parallel R (scanLoops onText q ls)
  | _, [] => .id
  | q, l :: ls => ((scanLoops_parallel ht q ls).comp (scanLoop_parallel ht q l)).tick ht.lasting _

end

variable (ht : ParallelTexts R onText)
include ht

theorem scanDecorators_parallel (p : Place) (ds : List Decorator) : Parallel R (scanDecorators onText p ds) := by
  unfold scanDecorators
  exact .foldl (fun d => scanExpr_parallel ht p d.expr) ds

theorem scanSmall_parallel (p : Place) (x : Small) : Parallel R (scanSmall onText p x) := by
  have haliases : ∀ origin as, Parallel R (scanAliases p.scope origin as) :=
    fun origin as => (Parallel.foldl (fun n => .assign ht.lasting p.scope n _) _).tick ht.lasting p.scope
  cases x with
  | expr e => exact scanExpr_parallel ht p e
  | assign targets value =>
    have htargets := Parallel.foldl (fun x : Target => scanExpr_parallel ht p.target x.target) targets
    exact ((scanExpr_parallel ht p value).comp htargets).tick ht.lasting _
  | annAssign target hint value =>
    have hvalue : Parallel R fun t => value.elim t fun a => scanExpr onText p a.value t :=
      .elim (fun a => scanExpr_parallel ht p a.value) value
    exact (hvalue.comp ((scanExpr_parallel ht p.hint hint.expr).comp (scanExpr_parallel ht p.target target))).tick ht.lasting _
  | augAssign target sign value =>
    exact ((scanExpr_parallel ht p value).comp (scanExpr_parallel ht p.target target)).tick ht.lasting _
  | importNames opening as => exact haliases "" as
  | importFrom f => exact haliases f.origin f.imported.aliases
  | declare reach opening names =>
    exact (Parallel.foldl (fun d _ _ => ht.lasting.redirect p.scope reach d.name.text) names).tick ht.lasting _
  | plain kind pieces => exact scanPieces_parallel ht p pieces

theorem scanItems_parallel (p : Place) (is : List Item) : Parallel R (scanItems onText p is) := by
  unfold scanItems
  exact .foldl (fun i => scanSmall_parallel ht p i.stmt) is

theorem scanHeader_parallel (p : Place) (h : Header) : Parallel R (scanHeader onText p h) := by
  cases h with
  | word => exact .id
  | test opening e => exact scanExpr_parallel ht p e
  | handler opening e sep name =>
    exact ((scanName_parallel ht.lasting p.target name).comp (scanExpr_parallel ht p e)).tick ht.lasting _
  | loop opening target sep iter =>
    exact (scanExpr_parallel ht p iter).comp ((scanExpr_parallel ht p.target target).tick ht.lasting _)
  | context opening items =>
    refine .foldl (fun w => ?_) items
    have htarget : Parallel R fun t => w.asTarget.elim t fun a => scanExpr onText p.target a.target t :=
      .elim (fun a => scanExpr_parallel ht p.target a.target) w.asTarget
    exact (htarget.comp (scanExpr_parallel ht p w.value)).tick ht.lasting _

/-- Bodies that keep the relation keep it inside of a function. -/
theorem FuncHead.scanAround_related (h : FuncHead) (p : Place) {body body' : Table → Table}
    (hbody : ∀ t t', R t t' → R (body t) (body' t')) :
    ∀ t t', R t t' → R (h.scanAround onText p body t) (h.scanAround onText p body' t') := by
  intro t t' ht'
  have hhead := (scanParams_parallel ht p (h.frame :: p.scope) h.params).comp (.assign ht.lasting p.scope h.name.text none)
  have hreturns : Parallel R fun t => h.returns.elim t fun a => scanExpr onText p.hint a.expr t :=
    .elim (fun a => scanExpr_parallel ht p.hint a.expr) h.returns
  have hinside := hbody _ _ (hhead.tick ht.lasting (h.frame :: p.scope) t t' ht')
  exact (hreturns.comp (scanDecorators_parallel ht p h.decorators)) _ _ hinside

/-- Bodies that keep the relation keep it inside of a class. -/
theorem ClassHead.scanAround_related (h : ClassHead) (p : Place) {body body' : Table → Table}
    (hbody : ∀ t t', R t t' → R (body t) (body' t')) :
    ∀ t t', R t t' → R (h.scanAround onText p body t) (h.scanAround onText p body' t') := by
  intro t t' ht'
  have hargs : Parallel R fun t => h.args.elim t fun a => a.args.foldl (fun t x => scanExpr onText p x.value t) t :=
    .elim (fun a => .foldl (fun x => scanExpr_parallel ht p x.value) a.args) h.args
  have hhead := (scanDecorators_parallel ht p h.decorators).comp (.assign ht.lasting p.scope h.name.text none)
  exact hbody _ _ (hargs.comp hhead t t' ht')

/-- Scanning a node keeps the relation. -/
theorem Node.scan_parallel (n : Node) : ∀ p, Parallel R (n.scan onText p) := by
  induction n using Node.induct with
  | line l => exact fun p => scanItems_parallel ht p l.items
  | inline o is t => exact fun p => scanItems_parallel ht p is
  | compound cs ih => exact ih
  | block o i xs f ih => exact ih
  | funcDef h b ih =>
    exact fun p => Parallel.tick (h.scanAround_related ht p (ih (p.inside (h.frame :: p.scope)))) ht.lasting p.scope
  | classDef h b ih =>
    exact fun p => Parallel.tick (h.scanAround_related ht p (ih (p.inside (h.frame :: p.scope)))) ht.lasting p.scope
  | noClause | noStmt => exact fun _ => .id
  | clause head b cs ihb ihc => exact fun p => (ihc p).comp ((ihb p).comp (scanHeader_parallel ht p head.header))
  | next x xs ihx ihxs => exact fun p => (ihxs p).comp (ihx p)

end

/-! ## Texts and modules -/

theorem scanText_parallel {R : Table → Table → Prop} (hR : Lasting R) (depth : Nat) : ParallelTexts R (scanText depth) := by
  induction depth with
  | zero => exact ⟨hR, fun _ _ => .id⟩
  | succ depth ih =>
    refine ⟨hR, fun p text t t' h => ?_⟩
    -- both tables number the tokens of the text from the same site on
    rw [scanText, scanText, (hR.beside h).fresh]
    split
    · exact h
    · next m hm => exact Node.scan_parallel ih (.stmts m.body) _ _ _ (hR.renumber m.sites h)

theorem scanHintText_parallel {R : Table → Table → Prop} (hR : Lasting R) : ParallelTexts R scanHintText :=
  ⟨hR, fun p text => (scanText_parallel hR (text.length + 1)).texts p text⟩

/-- An assignment at the top level that brings nothing of `typing`. -/
theorem Table.Beside.assign_mute {t t' : Table} (h : t.Beside t') {name : String} {source : Option ImportSource}
    (hm : Assignment.IsMute ⟨name, t'.home name [], t'.clock (t'.home name []), source⟩) :
    t.Beside (t'.assign [] name source) := by
  refine { h with assigned := ?_, assigned' := ?_ }
  · intro a ha
    exact (h.assigned a ha).imp_right fun ⟨a', ha', hm⟩ => ⟨a', List.mem_cons_of_mem _ ha', hm⟩
  · intro a ha
    rcases List.mem_cons.1 ha with rfl | ha
    · exact .inl hm
    · exact h.assigned' a ha

/-- An import of the package at the top level. -/
theorem Table.Beside.assign_package {t t' : Table} (h : t.Beside t') {name : String} (hname : '.' ∉ name.toList)
    {i : ImportSource} (hi : i.IsPackage) : t.Beside (t'.assign [] name (some i)) :=
  h.assign_mute ⟨t'.home_top name, hname, fun _ _ _ hq => hi.silent rfl hq⟩

theorem scanAliases_beside {origin : String} {as : List Alias} (hi : (ImportSource.mk origin (as.map Alias.imported)).IsPackage)
    (hnames : ∀ name ∈ as.flatMap Alias.bound, '.' ∉ name.toList) (t : Table) : t.Beside (scanAliases [] origin as t) := by
  have hfold : ∀ (names : List String) t', (∀ name ∈ names, '.' ∉ name.toList) → t.Beside t' →
      t.Beside (names.foldl (fun t n => t.assign [] n (some ⟨origin, as.map Alias.imported⟩)) t') := by
    intro names
    induction names with
    | nil => exact fun _ _ h => h
    | cons name names ih =>
      intro t' hn h
      obtain ⟨hname, hn⟩ := List.forall_mem_cons.1 hn
      exact ih _ hn (h.assign_package hname hi)
  exact { hfold _ t hnames (.refl t) with }

/-- New imports leave the table beside what it was. -/
theorem newImports_beside (onText : Place → String → Table → Table) {as : List Alias}
    (hnames : ∀ name ∈ as.flatMap Alias.bound, '.' ∉ name.toList) (package : Bool) (t : Table) :
    t.Beside (scanStmts onText .top (newImports package as) t) := by
  have hwhole : ∀ t : Table, t.Beside (scanAliases [] "" [.ofName packageName] t) := by
    refine scanAliases_beside (.inr ?_) ?_
    · rw [List.map_singleton, Alias.imported_ofName]
    · simp only [List.flatMap_cons, List.flatMap_nil, Alias.bound_ofName]
      decide
  have hobjects : ∀ t : Table, t.Beside (scanAliases [] packageName as t) := scanAliases_beside (.inl rfl) hnames
  cases package with
  | false =>
    cases as with
    | nil => exact .refl t
    | cons a as => exact hobjects t
  | true =>
    cases as with
    | nil => exact hwhole t
    | cons a as => exact (hwhole t).trans (hobjects _)

end AttrsUpgrade
