import AttrsUpgrade.Proofs.Bindings
/-!
# Scanning and steps

The table of a module holds what its steps do to names, and little else. Beside these, expressions bind names in the scopes of
their lambdas and comprehensions, assign to names by `:=`, and hold texts that are read as type hints and may do anything
(`Noise.Makes`). Such names set apart, `Module.table_goes` says that the assignments in scopes of functions and classes are those
of `Module.binds`, one after the other.
-/

namespace AttrsUpgrade

/-! ## Names and what happens to them -/

/-- Scopes of functions and classes have a name, those of lambdas and comprehensions have none. -/
def Frame.isNamed (f : Frame) : Bool :=
  match f.kind with
  | .function name => name.isSome
  | .cls _ => true
  | .comprehension => false

def Scope.isNamed (s : Scope) : Bool := s.all Frame.isNamed

/-- What scanning expressions may do, beside noting uses. -/
inductive Effect where
  /-- A name is assigned to in the scope of a lambda or comprehension. -/
  | inner (name : String)
  /-- A name is assigned to or declared, in whatever scope. -/
  | loud (name : String)
  /-- Something goes wrong. -/
  | fault
deriving DecidableEq

/-- An assignment, its time apart. -/
structure Key (α : Type) where
  name : String
  scope : Scope
  source : α

/-- What is known of names. -/
structure Names (α : Type) where
  keys : List (Key α)
  redirects : List Redirect

/-- The scope that an assignment made in `s` goes to. -/
def homeIn (redirects : List Redirect) (name : String) (s : Scope) : Scope :=
  match (redirects.find? fun r => r.scope = s ∧ r.name = name).map Redirect.reach with
  | some .global => []
  | some .nonlocal => s.drop 1 |>.dropWhile Frame.isClass
  | none => s

def Names.bind {α : Type} (v : Names α) : Bind α → Names α
  | .assign s name source => { v with keys := ⟨name, homeIn v.redirects name s, source⟩ :: v.keys }
  | .declare [] _ _ => v
  | .declare (f :: fs) reach name => { v with redirects := ⟨f :: fs, name, reach⟩ :: v.redirects }

def Bind.name {α : Type} : Bind α → String
  | .assign _ name _ => name
  | .declare _ _ name => name

/-- What goes wrong at last: a declaration of the module itself. -/
def Bind.fault {α : Type} (e : Option ResolveError) : Bind α → Option ResolveError
  | .declare [] .nonlocal _ => e.or (some .strayNonlocal)
  | _ => e

def Assignment.key (a : Assignment) : Key (Option ImportSource) := ⟨a.name, a.scope, a.source⟩

section
variable (N : Effect → Prop)

open Classical in
/-- What happens to names that are not loud. -/
noncomputable def spared {α : Type} (bs : List (Bind α)) : List (Bind α) := bs.filter fun b => ¬N (.loud b.name)

namespace Table

open Classical in
/-- What a table knows of the names in scopes of functions and classes, loud ones apart. -/
noncomputable def names (t : Table) : Names (Option ImportSource) where
  keys := (t.assignments.filter fun a => a.scope.isNamed = true ∧ ¬N (.loud a.name)).map Assignment.key
  redirects := t.redirects.filter fun r => ¬N (.loud r.name)

/-- Declarations stand in functions and classes, those of loud names in anything but the module. -/
def Tidy (t : Table) : Prop := ∀ r ∈ t.redirects, r.scope ≠ [] ∧ (N (.loud r.name) ∨ r.scope.isNamed = true)

/-- From one table to the next: `binds` happens, and beside it only effects in `N`. Nothing is forgotten. -/
structure Goes (binds : List (Bind (Option ImportSource))) (t t' : Table) : Prop where
  names : t'.names N = (spared N binds).foldl Names.bind (t.names N)
  error : N .fault ∨ t'.error = binds.foldl Bind.fault t.error
  assigned : ∀ a ∈ t'.assignments, a ∈ t.assignments ∨ N (.loud a.name) ∨ (a.scope.isNamed = false ∧ N (.inner a.name)) ∨
    ∃ s, .assign s a.name a.source ∈ binds ∧ a.scope.isNamed = true ∧ (s = [] → a.scope = [])
  made : ∀ name source, .assign [] name source ∈ binds → ∃ a ∈ t'.own [] name, a.source = source
  kept : t.assignments ⊆ t'.assignments
  accesses : t.accesses ⊆ t'.accesses
  clock : ∀ s, t.clock s ≤ t'.clock s
  tidy : t'.Tidy N

end Table

/-- A step of the scan. -/
def Scans (binds : List (Bind (Option ImportSource))) (f : Table → Table) : Prop := ∀ t : Table, t.Tidy N → t.Goes N binds (f t)

end

open Table

section
variable {N : Effect → Prop} {t : Table} {name : String}

theorem Table.home_top (t : Table) (name : String) : t.home name [] = [] := by
  unfold Table.home
  split <;> rfl

/-- In lambdas and comprehensions nothing is declared but loud names. -/
theorem Table.Tidy.home_inner (h : t.Tidy N) {s : Scope} (hs : s.isNamed = false) (hname : ¬N (.loud name)) :
    t.home name s = s := by
  have hreach : t.reach? s name = none := by
    rw [reach?, Option.map_eq_none_iff, List.find?_eq_none]
    intro r hr hrs
    obtain ⟨rfl, rfl⟩ := of_decide_eq_true hrs
    rcases (h r hr).2 with hloud | hnamed
    · exact hname hloud
    · rw [hs] at hnamed
      cases hnamed
  rw [home, hreach]

theorem homeIn_isNamed (redirects : List Redirect) (name : String) {s : Scope} (h : s.isNamed = true) :
    (homeIn redirects name s).isNamed = true := by
  unfold homeIn
  split
  · rfl
  · rw [Scope.isNamed, List.all_eq_true] at h ⊢
    intro f hf
    exact h f (List.mem_of_mem_drop ((List.dropWhile_sublist _).subset hf))
  · exact h

/-- Declarations of loud names do not matter to other names. -/
theorem reach?_names (t : Table) (hname : ¬N (.loud name)) (s : Scope) :
    ((t.names N).redirects.find? fun r => r.scope = s ∧ r.name = name).map Redirect.reach = t.reach? s name := by
  rw [Table.reach?, Table.names, List.find?_filter]
  congr 2
  funext r
  by_cases hr : r.scope = s ∧ r.name = name
  · simp [hr, hname]
  · simp [hr]

theorem homeIn_names (t : Table) (hname : ¬N (.loud name)) (s : Scope) : homeIn (t.names N).redirects name s = t.home name s := by
  rw [homeIn, reach?_names t hname s]
  rfl

end

namespace Scans
variable {N : Effect → Prop} {bs bs' : List (Bind (Option ImportSource))} {f : Table → Table} {s : Scope}

/-- A step that leaves alone what was assigned and declared. -/
theorem of_same (hassignments : ∀ t, (f t).assignments = t.assignments) (hredirects : ∀ t, (f t).redirects = t.redirects)
    (herror : ∀ t, N .fault ∨ (f t).error = t.error) (haccesses : ∀ t, t.accesses ⊆ (f t).accesses)
    (hclock : ∀ t s, t.clock s ≤ (f t).clock s) : Scans N [] f := by
  intro t ht
  refine ⟨?_, herror t, fun a ha => .inl (hassignments t ▸ ha), fun _ _ hb => absurd hb List.not_mem_nil, ?_, haccesses t,
    hclock t, ?_⟩
  · rw [Table.names, hassignments, hredirects]
    rfl
  · rw [hassignments]
    exact List.Subset.refl _
  · rw [Table.Tidy, hredirects]
    exact ht

theorem id : Scans N [] fun t => t :=
  .of_same (fun _ => rfl) (fun _ => rfl) (fun _ => .inr rfl) (fun _ => List.Subset.refl _) fun _ _ => Nat.le_refl _

/-- One step after another; the second may depend on the table before the first. -/
theorem next {g : Table → Table → Table} (hg : ∀ t, Scans N bs' (g t)) (hf : Scans N bs f) :
    Scans N (bs ++ bs') fun t => g t (f t) := by
  intro t ht
  have h₁ := hf t ht
  have h₂ := hg t (f t) h₁.tidy
  refine ⟨?_, ?_, ?_, ?_, List.Subset.trans h₁.kept h₂.kept, List.Subset.trans h₁.accesses h₂.accesses,
    fun s => Nat.le_trans (h₁.clock s) (h₂.clock s), h₂.tidy⟩
  · rw [h₂.names, h₁.names, spared, spared, spared, List.filter_append, List.foldl_append]
  · rcases h₂.error with h | h
    · exact .inl h
    · refine h₁.error.imp_right fun h' => ?_
      rw [h, h', List.foldl_append]
  · intro a ha
    rcases h₂.assigned a ha with ha | ha | ha | ⟨s, hb, hs⟩
    · refine (h₁.assigned a ha).imp_right fun h => h.imp_right fun h => h.imp_right ?_
      exact fun ⟨s, hb, hs⟩ => ⟨s, List.mem_append_left _ hb, hs⟩
    · exact .inr (.inl ha)
    · exact .inr (.inr (.inl ha))
    · exact .inr (.inr (.inr ⟨s, List.mem_append_right _ hb, hs⟩))
  · intro name source hb
    rcases List.mem_append.1 hb with hb | hb
    · obtain ⟨a, ha, hsource⟩ := h₁.made name source hb
      obtain ⟨ha, hown⟩ := List.mem_filter.1 ha
      exact ⟨a, List.mem_filter.2 ⟨h₂.kept ha, hown⟩, hsource⟩
    · exact h₂.made name source hb

theorem comp {g : Table → Table} (hg : Scans N bs' g) (hf : Scans N bs f) : Scans N (bs ++ bs') fun t => g (f t) :=
  .next (fun _ => hg) hf

/-- A step that binds nothing after another one. -/
theorem seq {g : Table → Table} (hg : Scans N [] g) (hf : Scans N bs f) : Scans N bs fun t => g (f t) := by
  have h := hg.comp hf
  rwa [List.append_nil] at h

theorem place (s : Scope) (site : Nat) : Scans N [] fun t => t.place s site :=
  .of_same (fun _ => rfl) (fun _ => rfl) (fun _ => .inr rfl) (fun _ => List.Subset.refl _) fun _ _ => Nat.le_refl _

theorem renumber (fresh : Nat) : Scans N [] fun t => { t with fresh } :=
  .of_same (fun _ => rfl) (fun _ => rfl) (fun _ => .inr rfl) (fun _ => List.Subset.refl _) fun _ _ => Nat.le_refl _

theorem access (s : Scope) (paths : List String) : Scans N [] fun t => t.access s paths :=
  .of_same (fun _ => rfl) (fun _ => rfl) (fun _ => .inr rfl) (fun _ => List.subset_cons_self _ _) fun _ _ => Nat.le_refl _

theorem fail (h : N .fault) (e : ResolveError) : Scans N [] fun t => t.fail e :=
  .of_same (fun _ => rfl) (fun _ => rfl) (fun _ => .inl h) (fun _ => List.Subset.refl _) fun _ _ => Nat.le_refl _

theorem tick (hf : Scans N bs f) (s : Scope) : Scans N bs fun t => (f t).tick s := by
  have htick : Scans N [] fun t => t.tick s :=
    .of_same (fun _ => rfl) (fun _ => rfl) (fun _ => .inr rfl) (fun _ => List.Subset.refl _)
      fun _ _ => List.count_le_count_cons
  exact htick.seq hf

/-- An assignment in a function or class. -/
theorem assign (hs : s.isNamed = true) (name : String) (source : Option ImportSource) :
    Scans N [.assign s name source] fun t => t.assign s name source := by
  intro t ht
  have hhome : (t.home name s).isNamed = true := homeIn_isNamed t.redirects name hs
  refine ⟨?_, .inr rfl, ?_, ?_, List.subset_cons_self _ _, List.Subset.refl _, fun _ => Nat.le_refl _, ht⟩
  · by_cases hname : N (.loud name)
    · simp [Table.names, Table.assign, spared, Bind.name, hname]
    · have hkey := homeIn_names t hname s
      simp only [Table.names] at hkey
      simp only [Table.names, Table.assign, spared, Bind.name, hname, hhome, not_false_eq_true, and_self, decide_true,
        List.filter_cons_of_pos, List.filter_nil, List.map_cons, List.foldl_cons, List.foldl_nil, Names.bind, hkey]
      rfl
  · intro a ha
    rcases List.mem_cons.1 ha with rfl | ha
    · refine .inr (.inr (.inr ⟨s, List.mem_cons_self, hhome, ?_⟩))
      rintro rfl
      exact t.home_top name
    · exact .inl ha
  · intro name' source' hb
    cases List.mem_singleton.1 hb
    exact ⟨_, List.mem_filter.2 ⟨List.mem_cons_self, decide_eq_true ⟨rfl, t.home_top name⟩⟩, rfl⟩

/-- An assignment to a loud name, in whatever scope. -/
theorem assign_loud {name : String} (hname : N (.loud name)) (s : Scope) (source : Option ImportSource) :
    Scans N [] fun t => t.assign s name source := by
  intro t ht
  refine ⟨?_, .inr rfl, ?_, fun _ _ hb => absurd hb List.not_mem_nil, List.subset_cons_self _ _, List.Subset.refl _,
    fun _ => Nat.le_refl _, ht⟩
  · simp [Table.names, Table.assign, spared, hname]
  · intro a ha
    rcases List.mem_cons.1 ha with rfl | ha
    · exact .inr (.inl hname)
    · exact .inl ha

/-- An assignment in a lambda or comprehension. -/
theorem assign_inner (hs : s.isNamed = false) {name : String} (hname : N (.inner name)) :
    Scans N [] fun t => t.assign s name none := by
  by_cases hloud : N (.loud name)
  · exact assign_loud hloud s none
  · intro t ht
    have hhome := ht.home_inner hs hloud
    refine ⟨?_, .inr rfl, ?_, fun _ _ hb => absurd hb List.not_mem_nil, List.subset_cons_self _ _, List.Subset.refl _,
      fun _ => Nat.le_refl _, ht⟩
    · simp [Table.names, Table.assign, spared, hhome, hs]
    · intro a ha
      rcases List.mem_cons.1 ha with rfl | ha
      · exact .inr (.inr (.inl ⟨hhome.symm ▸ hs, hname⟩))
      · exact .inl ha

theorem redirect (hs : s.isNamed = true) (reach : Reach) (name : String) :
    Scans N [.declare s reach name] fun t => t.redirect s reach name := by
  intro t ht
  have hmade : ∀ name' source, .assign [] name' source ∈ [Bind.declare s reach name] →
      ∃ a ∈ (t.redirect s reach name).own [] name', a.source = source := fun _ _ hb => nomatch List.mem_singleton.1 hb
  cases s with
  | nil =>
    have hnames : (spared N [Bind.declare [] reach name]).foldl Names.bind (t.names N) = t.names N := by
      by_cases hname : N (.loud name) <;> simp [spared, Bind.name, hname, Names.bind]
    cases reach with
    | global | nonlocal =>
      exact ⟨hnames.symm, .inr rfl, fun _ => .inl, hmade, List.Subset.refl _, List.Subset.refl _, fun _ => Nat.le_refl _, ht⟩
  | cons f fs =>
    refine ⟨?_, .inr ?_, fun _ => .inl, hmade, List.Subset.refl _, List.Subset.refl _, fun _ => Nat.le_refl _, ?_⟩
    · by_cases hname : N (.loud name) <;> simp [Table.names, Table.redirect, spared, Bind.name, hname, Names.bind]
    · cases reach <;> rfl
    · intro r hr
      rcases List.mem_cons.1 hr with rfl | hr
      · exact ⟨List.cons_ne_nil _ _, .inr hs⟩
      · exact ht r hr

/-- A declaration of a loud name, in whatever scope. -/
theorem redirect_loud {name : String} (hname : N (.loud name)) (s : Scope) {reach : Reach}
    (hfault : reach = .nonlocal → N .fault) : Scans N [] fun t => t.redirect s reach name := by
  intro t ht
  cases s with
  | nil =>
    cases reach with
    | global => exact Scans.id t ht
    | nonlocal => exact Scans.fail (hfault rfl) _ t ht
  | cons f fs =>
    refine ⟨?_, .inr ?_, fun _ => .inl, fun _ _ hb => absurd hb List.not_mem_nil, List.Subset.refl _, List.Subset.refl _,
      fun _ => Nat.le_refl _, ?_⟩
    · simp [Table.names, Table.redirect, spared, hname]
    · cases reach <;> rfl
    · intro r hr
      rcases List.mem_cons.1 hr with rfl | hr
      · exact ⟨List.cons_ne_nil _ _, .inl hname⟩
      · exact ht r hr

/-- Steps for the elements of a list, one after the other. -/
theorem foldl {α : Type} {step : α → Table → Table} {binds : α → List (Bind (Option ImportSource))} {xs : List α}
    (h : ∀ x ∈ xs, Scans N (binds x) (step x)) : Scans N (xs.flatMap binds) fun t => xs.foldl (fun t x => step x t) t := by
  induction xs with
  | nil => exact .id
  | cons x xs ih =>
    rw [List.flatMap_cons]
    exact (ih fun y hy => h y (List.mem_cons_of_mem _ hy)).comp (h x List.mem_cons_self)

theorem foldl_nil {α : Type} {step : α → Table → Table} {xs : List α} (h : ∀ x ∈ xs, Scans N [] (step x)) :
    Scans N [] fun t => xs.foldl (fun t x => step x t) t := by
  have hfold : Scans N (xs.flatMap fun _ => []) fun t => xs.foldl (fun t x => step x t) t := foldl h
  rwa [List.flatMap_eq_nil_iff.2 fun _ _ => rfl] at hfold

/-- A step for something that may be missing. -/
theorem elim {α : Type} {step : α → Table → Table} {o : Option α} (h : ∀ a ∈ o, Scans N [] (step a)) :
    Scans N [] fun t => o.elim t fun a => step a t := by
  cases o with
  | none => exact .id
  | some a => exact h a rfl

end Scans

/-! ## Noises -/

/-- Something in an expression that does more than use a name. -/
inductive Noise where
  /-- A name that an expression assigns to. -/
  | loud (name : String)
  /-- A literal that may be read as a type hint. -/
  | text (v : LiteralResult)
  /-- A name that a lambda or comprehension binds. -/
  | inner (name : String)

def Expr.nameText : Expr → List String × Bool
  | .name n => ([n.text], true)
  | _ => ([], true)

/-- All names in an expression. -/
def Expr.nameTexts (e : Expr) : List String := e.walk Expr.nameText

def Expr.noise : Expr → List Noise × Bool
  | .string s => ([.text (Text.literalValue s)], true)
  | .concat l g r => ((Expr.concat l g r).literalValue?.toList.map .text, true)
  | .lambda _ _ ps _ _ => ((ps.filterMap Param.name?).map fun n => .inner n.text, true)
  | .comprehension _ _ _ l ls _ => ((l :: ls).flatMap fun l => l.target.nameTexts.map .inner, true)
  | .walrus target _ _ => (target.nameTexts.map .loud, true)
  | _ => ([], true)

def Expr.noises (e : Expr) : List Noise := e.walk Expr.noise

/-- The noises of a target. Of one that cannot be a target all names are loud. -/
def Expr.targetNoises (e : Expr) : List Noise := (if e.stored?.isSome then [] else e.nameTexts.map .loud) ++ e.noises

def Small.noises : Small → List Noise
  | .expr e => e.noises
  | .assign targets value => targets.flatMap (fun t => t.target.targetNoises) ++ value.noises
  | .annAssign target hint value =>
    target.targetNoises ++ hint.expr.noises ++ (value.map fun a => a.value.noises).getD []
  | .augAssign target _ value => target.targetNoises ++ value.noises
  | .plain _ ps => walkPieces Expr.noise ps
  | .importNames _ _ => []
  | .importFrom _ => []
  | .declare _ _ _ => []

/-- A string that is a statement of its own is never read. -/
def Small.heard : Small → List Noise
  | .expr (.string _) => []
  | x => x.noises

def WithItem.noises (w : WithItem) : List Noise :=
  w.value.noises ++ (w.asTarget.map fun a => a.target.targetNoises).getD []

def Header.noises : Header → List Noise
  | .word _ => []
  | .test _ e => e.noises
  | .handler _ e _ _ => e.noises
  | .loop _ target _ iter => target.targetNoises ++ iter.noises
  | .context _ items => items.flatMap WithItem.noises

def FuncHead.noises (h : FuncHead) : List Noise :=
  h.decorators.flatMap (fun d => d.expr.noises) ++ walkParams Expr.noise h.params ++
    (h.returns.map fun a => a.expr.noises).getD []

def ClassHead.noises (h : ClassHead) : List Noise :=
  h.decorators.flatMap (fun d => d.expr.noises) ++ (h.args.map fun a => a.args.flatMap fun x => x.value.noises).getD []

/-- What scanning the pieces of statements may do. -/
def listening : Gather Noise where
  small _ x := x.heard
  func _ h := h.noises
  cls _ h := h.noises
  head _ h := h.noises

/-- The same for the statements of a text, where every string is read. -/
def hearing : Gather Noise where
  small _ x := x.noises
  func _ h := h.noises
  cls _ h := h.noises
  head _ h := h.noises

def Small.effects : Small → List Effect
  | .importNames _ as => (as.flatMap Alias.bound).map .loud
  | .importFrom f => (f.imported.aliases.flatMap Alias.bound).map .loud
  | .declare reach _ names => names.map (fun d => .loud d.name.text) ++ if reach = .nonlocal then [.fault] else []
  | _ => []

/-- What the statements of a text do themselves. Names are not assigned to there by being targets. -/
def acting : Gather Effect where
  small _ x := x.effects
  func _ h := .loud h.name.text :: (h.params.filterMap Param.name?).map fun n => .loud n.text
  cls _ h := [.loud h.name.text]
  head _ _ := []

/-- What may come of a noise. A text does what its statements do, wherever it is read. -/
inductive Noise.Makes : Noise → Effect → Prop
  | inner (n : String) : Makes (.inner n) (.inner n)
  | loud (n : String) : Makes (.loud n) (.loud n)
  | literal (e : Text.LiteralError) : Makes (.text (.error e)) .fault
  | source {v : Text.LiteralValue} {e : Text.SourceError} : v.source = .error e → Makes (.text (.ok v)) .fault
  | act {v : Text.LiteralValue} {s : String} {k : Nat} {m : Module} {x : Effect} : v.source = .ok s →
      Module.parseFrom? k s = some m → x ∈ m.gather acting → Makes (.text (.ok v)) x
  | inside {v : Text.LiteralValue} {s : String} {k : Nat} {m : Module} {z : Noise} {x : Effect} : v.source = .ok s →
      Module.parseFrom? k s = some m → z ∈ m.gather hearing → Makes z x → Makes (.text (.ok v)) x

/-- What comes of a noise that is no text. -/
def Noise.effect? : Noise → Option Effect
  | .inner n => some (.inner n)
  | .loud n => some (.loud n)
  | .text _ => none

/-- Nothing comes of a noise but effects in `N`. -/
def Noise.Quiet (N : Effect → Prop) (z : Noise) : Prop := ∀ x, z.Makes x → N x

/-! ## Expressions -/

/-- What has these noises and names can stand at the place: where names are assigned to, the scope is that of a lambda or
comprehension, or they are loud. -/
structure Place.Takes (N : Effect → Prop) (p : Place) (zs : List Noise) (ns : List String) : Prop where
  quiet : ∀ z ∈ zs, z.Quiet N
  stored : p.store = true → p.quoted = false → (p.scope.isNamed = false ∧ ∀ n ∈ ns, N (.inner n)) ∨ ∀ n ∈ ns, N (.loud n)

namespace Place.Takes
variable {N : Effect → Prop} {p : Place} {zs zs' : List Noise} {ns ns' : List String}

theorem mono (h : p.Takes N zs ns) (hz : zs' ⊆ zs) (hn : ns' ⊆ ns) : p.Takes N zs' ns' :=
  ⟨fun z hz' => h.quiet z (hz hz'), fun hs hq => (h.stored hs hq).imp (fun h => ⟨h.1, fun n hn' => h.2 n (hn hn')⟩)
    fun h n hn' => h n (hn hn')⟩

theorem left (h : p.Takes N (zs ++ zs') (ns ++ ns')) : p.Takes N zs ns :=
  h.mono (List.subset_append_left _ _) (List.subset_append_left _ _)

theorem right (h : p.Takes N (zs ++ zs') (ns ++ ns')) : p.Takes N zs' ns' :=
  h.mono (List.subset_append_right _ _) (List.subset_append_right _ _)

/-- A place where nothing is assigned to. -/
theorem of_load {q : Place} (h : ∀ z ∈ zs, z.Quiet N) (hq : q.store = false) : q.Takes N zs ns :=
  ⟨h, fun hs => by rw [hq] at hs; cases hs⟩

/-- A place inside a string. -/
theorem of_quoted {q : Place} (h : ∀ z ∈ zs, z.Quiet N) (hq : q.quoted = true) : q.Takes N zs ns :=
  ⟨h, fun _ hs => by rw [hq] at hs; cases hs⟩

/-- A place that differs only in what is read there. -/
theorem of_same {q : Place} (h : p.Takes N zs ns) (hs : q.store = p.store) (hq : q.quoted = p.quoted)
    (hc : q.scope = p.scope) : q.Takes N zs ns :=
  ⟨h.quiet, fun hs' hq' => hc ▸ h.stored (hs ▸ hs') (hq ▸ hq')⟩

/-- A place in a scope of a lambda or comprehension. -/
theorem inside (h : p.Takes N zs ns) {s : Scope} (hs : s.isNamed = false) : (p.inside s).Takes N zs ns :=
  ⟨h.quiet, fun hs' hq' => (h.stored hs' hq').imp_left fun h => ⟨hs, h.2⟩⟩

end Place.Takes

section
variable {N : Effect → Prop} {onText : Place → String → Table → Table}

/-- Texts that are quiet bind nothing. -/
def QuietTexts (N : Effect → Prop) (onText : Place → String → Table → Table) : Prop :=
  ∀ p v s, v.source = .ok s → (Noise.text (.ok v)).Quiet N → Scans N [] (onText p s)

theorem scanLiteral_scans (ht : QuietTexts N onText) (p : Place) {e : Expr} (h : ∀ v ∈ e.literalValue?, (Noise.text v).Quiet N)
    {f : Table → Table} (hf : Scans N [] f) : Scans N [] fun t => (scanLiteral? onText p e t).getD (f t) := by
  intro t htidy
  simp only [scanLiteral?]
  split
  · split
    · exact hf t htidy
    · next err he => exact Scans.fail (h _ he _ (.literal err)) _ t htidy
    · next v he =>
      split
      · exact hf t htidy
      · cases hsource : v.source with
        | ok s => exact ht p v s hsource (h _ he) t htidy
        | error err => exact Scans.fail (h _ he _ (.source hsource)) _ t htidy
  · exact hf t htidy

theorem scanName_scans {p : Place} {n : Name} (h : p.Takes N [] [n.text]) : Scans N [] (scanName p n) := by
  unfold scanName
  by_cases hs : (p.store && !p.quoted) = true
  · simp only [hs, if_true]
    rw [Bool.and_eq_true, Bool.not_eq_true'] at hs
    rcases h.stored hs.1 hs.2 with ⟨hscope, hn⟩ | hn
    · exact (Scans.assign_inner hscope (hn _ List.mem_cons_self)).comp (.place _ _)
    · exact (Scans.assign_loud (hn _ List.mem_cons_self) _ _).comp (.place _ _)
  · simp only [hs]
    exact (Scans.access _ _).comp (.place _ _)

open Place (Takes)

mutual

/-- Scanning a quiet expression binds nothing in scopes of functions and classes. -/
theorem scanExpr_scans (ht : QuietTexts N onText) :
    ∀ (p : Place) (e : Expr), p.Takes N e.noises e.nameTexts → Scans N [] (scanExpr onText p e)
  | p, .name n, h => scanName_scans h
  | p, .literal _, _ => .id
  | p, .string s, h => by
    refine scanLiteral_scans ht p (fun v hv => ?_) .id
    cases hv
    exact h.quiet _ List.mem_cons_self
  | p, .fstring ps, h => scanPieces_scans ht p ps h
  | p, .concat l g r, h => by
    have hliteral : ∀ v ∈ (Expr.concat l g r).literalValue?, (Noise.text v).Quiet N := by
      intro v hv
      refine h.quiet _ (List.mem_append_left _ ?_)
      exact List.mem_map_of_mem (Option.mem_toList.2 hv)
    have hparts : p.Takes N (l.noises ++ r.noises) (l.nameTexts ++ r.nameTexts) :=
      h.mono (List.subset_append_right _ _) (List.Subset.refl _)
    have hscan := scanLiteral_scans ht p hliteral
      ((scanExpr_scans ht p r hparts.right).seq (scanExpr_scans ht p l hparts.left))
    intro t htidy
    have hgoes := hscan t htidy
    simp only [scanExpr]
    cases hs : scanLiteral? onText p (.concat l g r) t with
    | none =>
      simp only [hs] at hgoes
      exact hgoes
    | some t' =>
      simp only [hs] at hgoes
      exact hgoes
  | p, .paren _ e _, h => scanExpr_scans ht p e h
  | p, .attribute v _ _, h => scanExpr_scans ht _ v (.of_load h.quiet rfl)
  | p, .call f o args c, h => by
    have hcall : p.call.Takes N (f.noises ++ walkArgs Expr.noise args) (f.nameTexts ++ walkArgs Expr.nameText args) :=
      h.of_same rfl rfl rfl
    exact .next (fun t => scanArgs_scans ht p.call _ true args hcall.right) (scanExpr_scans ht p.call f hcall.left)
  | p, .subscript v o ps c, h => by
    intro t htidy
    have hload : (p.subscript t v).load.Takes N (v.noises ++ walkPieces Expr.noise ps)
        (v.nameTexts ++ walkPieces Expr.nameText ps) := .of_load h.quiet rfl
    exact (Scans.seq (scanPieces_scans ht _ ps hload.right) (scanExpr_scans ht _ v hload.left)) t htidy
  | p, .display _ _ ps _, h => scanPieces_scans ht p ps h
  | p, .lambda site o ps c body, h => by
    have hparts : p.Takes N (walkParams Expr.noise ps ++ body.noises) (walkParams Expr.nameText ps ++ body.nameTexts) :=
      h.mono (List.subset_append_right _ _) (List.Subset.refl _)
    have hnames : ∀ n ∈ ps.filterMap Param.name?, N (.inner n.text) :=
      fun n hn => h.quiet _ (List.mem_append_left _ (List.mem_map_of_mem hn)) _ (.inner n.text)
    have hparams := scanParams_scans ht p (⟨site, .function none⟩ :: p.scope) ps hparts.left rfl hnames
    exact (scanExpr_scans ht _ body (hparts.right.inside rfl)).seq (hparams.tick _)
  | p, .comprehension site o ps l ls c, h => by
    have hparts : p.Takes N (walkPieces Expr.noise ps ++ l.walk Expr.noise ++ walkLoops Expr.noise ls)
        (walkPieces Expr.nameText ps ++ l.walk Expr.nameText ++ walkLoops Expr.nameText ls) :=
      h.mono (List.subset_append_right _ _) (List.Subset.refl _)
    have hnames : ∀ l' ∈ l :: ls, ∀ n ∈ l'.target.nameTexts, N (.inner n) := fun l' hl' n hn =>
      h.quiet (.inner n) (List.mem_append_left _ (List.mem_flatMap.2 ⟨l', hl', List.mem_map_of_mem hn⟩)) _ (.inner n)
    have hinner : (p.inside (⟨site, .comprehension⟩ :: p.scope)).scope.isNamed = false := rfl
    have hfirst := scanFirstLoop_scans ht p _ l hparts.left.right (hparts.left.right.inside hinner) hinner
      (hnames l List.mem_cons_self)
    have hothers := scanLoops_scans ht _ ls (hparts.right.inside hinner) hinner
      fun l' hl' => hnames l' (List.mem_cons_of_mem _ hl')
    exact (scanPieces_scans ht _ ps (hparts.left.left.inside hinner)).seq (hothers.seq hfirst)
  | p, .walrus target _ v, h => by
    have hparts : p.Takes N (target.noises ++ v.noises) (target.nameTexts ++ v.nameTexts) :=
      h.mono (List.subset_append_right _ _) (List.Subset.refl _)
    have hloud : ∀ n ∈ target.nameTexts, N (.loud n) :=
      fun n hn => h.quiet _ (List.mem_append_left _ (List.mem_map_of_mem hn)) _ (.loud n)
    have htarget : p.target.Takes N target.noises target.nameTexts := ⟨hparts.left.quiet, fun _ _ => .inr hloud⟩
    exact ((scanExpr_scans ht p v hparts.right).seq (scanExpr_scans ht p.target target htarget)).tick p.scope
  | p, .operation ps, h => scanPieces_scans ht p ps h

theorem scanPiece_scans (ht : QuietTexts N onText) : ∀ (p : Place) (x : Piece),
    p.Takes N (x.walk Expr.noise) (x.walk Expr.nameText) → Scans N [] (scanPiece onText p x)
  | _, .text _, _ => .id
  | p, .expr e, h => scanExpr_scans ht p e h

theorem scanPieces_scans (ht : QuietTexts N onText) : ∀ (p : Place) (ps : List Piece),
    p.Takes N (walkPieces Expr.noise ps) (walkPieces Expr.nameText ps) → Scans N [] (scanPieces onText p ps)
  | _, [], _ => .id
  | p, x :: ps, h => (scanPieces_scans ht p ps (Takes.right h)).seq (scanPiece_scans ht p x (Takes.left h))

theorem scanArg_scans (ht : QuietTexts N onText) : ∀ (p : Place) (a : Arg),
    p.Takes N (a.walk Expr.noise) (a.walk Expr.nameText) → Scans N [] (scanArg onText p a)
  | p, ⟨_, v, _, _⟩, h => scanExpr_scans ht p v h

theorem scanArgs_scans (ht : QuietTexts N onText) : ∀ (p : Place) (kind : CallKind) (first : Bool) (args : List Arg),
    p.Takes N (walkArgs Expr.noise args) (walkArgs Expr.nameText args) → Scans N [] (scanArgs onText p kind first args)
  | _, _, _, [], _ => .id
  | p, kind, first, a :: as, h => by
    have hhint : Takes N { p with typeHint := true } (a.walk Expr.noise) (a.walk Expr.nameText) :=
      (Takes.left h).of_same rfl rfl rfl
    have hplain := scanArg_scans ht p a (Takes.left h)
    have hrest := scanArgs_scans ht p kind false as (Takes.right h)
    cases kind with
    | usual => exact hrest.seq hplain
    | typeVariable =>
      cases first with
      | true => exact hrest
      | false => exact hrest.seq (scanArg_scans ht _ a hhint)
    | cast =>
      cases first with
      | true => exact hrest.seq (scanArg_scans ht _ a hhint)
      | false => exact hrest.seq hplain

/-- A parameter of a lambda. -/
theorem scanParam_scans (ht : QuietTexts N onText) : ∀ (p : Place) (s : Scope) (x : Param),
    p.Takes N (x.walk Expr.noise) (x.walk Expr.nameText) → s.isNamed = false → (∀ n ∈ x.name?, N (.inner n.text)) →
    Scans N [] (scanParam onText p s x)
  | _, _, .star _, _, _, _ => .id
  | _, _, .slash _, _, _, _ => .id
  | p, s, .named star name hint value comma, h, hs, hn => by
    have hparts : p.load.hint.Takes N (walkPieces Expr.noise hint ++ walkPieces Expr.noise value)
        (walkPieces Expr.nameText hint ++ walkPieces Expr.nameText value) := .of_load h.quiet rfl
    have hvalue : p.load.Takes N (walkPieces Expr.noise value) (walkPieces Expr.nameText value) := .of_load hparts.right.quiet rfl
    exact (scanPieces_scans ht _ hint hparts.left).seq
      ((scanPieces_scans ht _ value hvalue).seq (.assign_inner hs (hn name rfl)))

theorem scanParams_scans (ht : QuietTexts N onText) : ∀ (p : Place) (s : Scope) (ps : List Param),
    p.Takes N (walkParams Expr.noise ps) (walkParams Expr.nameText ps) → s.isNamed = false →
    (∀ n ∈ ps.filterMap Param.name?, N (.inner n.text)) → Scans N [] (scanParams onText p s ps)
  | _, _, [], _, _, _ => .id
  | p, s, x :: ps, h, hs, hn => by
    refine (scanParams_scans ht p s ps (Takes.right h) hs fun n hn' => hn n ?_).seq
      (scanParam_scans ht p s x (Takes.left h) hs fun n hn' => hn n ?_)
    · exact List.mem_filterMap.2 ((List.mem_filterMap.1 hn').imp fun y hy => ⟨List.mem_cons_of_mem _ hy.1, hy.2⟩)
    · exact List.mem_filterMap.2 ⟨x, List.mem_cons_self, hn'⟩

/-- The first loop of a comprehension. -/
theorem scanFirstLoop_scans (ht : QuietTexts N onText) : ∀ (p q : Place) (l : Loop),
    p.Takes N (l.walk Expr.noise) (l.walk Expr.nameText) → q.Takes N (l.walk Expr.noise) (l.walk Expr.nameText) →
    q.scope.isNamed = false → (∀ n ∈ l.target.nameTexts, N (.inner n)) → Scans N [] (scanFirstLoop onText p q l)
  | p, q, ⟨_, target, _, iter, conditions⟩, hp, hq, hs, hn => by
    have htarget : q.target.Takes N target.noises target.nameTexts :=
      ⟨(Takes.left (Takes.left hq)).quiet, fun _ _ => .inl ⟨hs, hn⟩⟩
    exact (scanPieces_scans ht q conditions (Takes.right hq)).seq
      (((scanExpr_scans ht _ target htarget).seq (scanExpr_scans ht p iter (Takes.right (Takes.left hp)))).tick _)

theorem scanLoop_scans (ht : QuietTexts N onText) : ∀ (q : Place) (l : Loop),
    q.Takes N (l.walk Expr.noise) (l.walk Expr.nameText) → q.scope.isNamed = false → (∀ n ∈ l.target.nameTexts, N (.inner n)) →
    Scans N [] (scanLoop onText q l)
  | q, ⟨_, target, _, iter, conditions⟩, hq, hs, hn => by
    have htarget : q.target.Takes N target.noises target.nameTexts :=
      ⟨(Takes.left (Takes.left hq)).quiet, fun _ _ => .inl ⟨hs, hn⟩⟩
    exact (scanPieces_scans ht q conditions (Takes.right hq)).seq
      ((scanExpr_scans ht q iter (Takes.right (Takes.left hq))).seq (scanExpr_scans ht _ target htarget))

theorem scanLoops_scans (ht : QuietTexts N onText) : ∀ (q : Place) (ls : List Loop),
    q.Takes N (walkLoops Expr.noise ls) (walkLoops Expr.nameText ls) → q.scope.isNamed = false →
    (∀ l ∈ ls, ∀ n ∈ l.target.nameTexts, N (.inner n)) → Scans N [] (scanLoops onText q ls)
  | _, [], _, _, _ => .id
  | q, l :: ls, h, hs, hn =>
    ((scanLoops_scans ht q ls (Takes.right h) hs fun l' hl' => hn l' (List.mem_cons_of_mem _ hl')).seq
      (scanLoop_scans ht q l (Takes.left h) hs (hn l List.mem_cons_self))).tick _

end

/-! ## Texts -/

def Node.scan (onText : Place → String → Table → Table) (p : Place) : Node → Table → Table
  | .stmt x => scanStmt onText p x
  | .stmts xs => scanStmts onText p xs
  | .clauses cs => scanClauses onText p cs
  | .suite b => scanSuite onText p b

section
variable (ht : QuietTexts N onText) {p : Place} (hp : p.quoted = true)
include ht hp

theorem scanExpr_quoted (e : Expr) (hz : ∀ z ∈ e.noises, z.Quiet N) : Scans N [] (scanExpr onText p e) :=
  scanExpr_scans ht p e (.of_quoted hz hp)

theorem scanTarget_quoted (e : Expr) (hz : ∀ z ∈ e.targetNoises, z.Quiet N) : Scans N [] (scanExpr onText p.target e) :=
  scanExpr_scans ht p.target e (.of_quoted (fun z hz' => hz z (List.mem_append_right _ hz')) hp)

theorem scanHint_quoted (e : Expr) (hz : ∀ z ∈ e.noises, z.Quiet N) : Scans N [] (scanExpr onText p.hint e) :=
  scanExpr_scans ht p.hint e (.of_quoted hz hp)

theorem scanDecorators_quoted (ds : List Decorator) (hz : ∀ z ∈ ds.flatMap (fun d => d.expr.noises), z.Quiet N) :
    Scans N [] (scanDecorators onText p ds) :=
  .foldl_nil fun d hd => scanExpr_quoted ht hp _ fun z hz' => hz z (List.mem_flatMap.2 ⟨d, hd, hz'⟩)

omit hp in
theorem scanParams_quoted (s : Scope) (ps : List Param) (hz : ∀ z ∈ walkParams Expr.noise ps, z.Quiet N)
    (hn : ∀ n ∈ ps.filterMap Param.name?, N (.loud n.text)) : Scans N [] (scanParams onText p s ps) := by
  induction ps with
  | nil => exact .id
  | cons x ps ih =>
    rw [walkParams, List.forall_mem_append] at hz
    cases x with
    | star _ | slash _ => exact ih hz.2 hn
    | named star name hint value comma =>
      have hparts : ∀ z ∈ walkPieces Expr.noise hint ++ walkPieces Expr.noise value, z.Quiet N := hz.1
      rw [List.forall_mem_append] at hparts
      have hname : Scans N [] (scanParam onText p s (.named star name hint value comma)) :=
        (scanPieces_scans ht _ hint (.of_load hparts.1 rfl)).seq
          ((scanPieces_scans ht _ value (.of_load hparts.2 rfl)).seq (.assign_loud (hn name List.mem_cons_self) s none))
      exact (ih hz.2 fun n hn' => hn n (List.mem_cons_of_mem _ hn')).seq hname

omit ht hp in
theorem scanAliases_loud (s : Scope) (origin : String) (as : List Alias)
    (hn : ∀ x ∈ (as.flatMap Alias.bound).map Effect.loud, N x) : Scans N [] (scanAliases s origin as) :=
  (Scans.foldl_nil fun _ hn' => .assign_loud (hn _ (List.mem_map_of_mem hn')) s _).tick _

theorem scanSmall_quoted (x : Small) (hz : ∀ z ∈ x.noises, z.Quiet N) (hx : ∀ y ∈ x.effects, N y) :
    Scans N [] (scanSmall onText p x) := by
  cases x with
  | expr e => exact scanExpr_quoted ht hp e hz
  | assign targets value =>
    rw [Small.noises, List.forall_mem_append] at hz
    have htargets : Scans N [] fun t => targets.foldl (fun t x => scanExpr onText p.target x.target t) t :=
      .foldl_nil fun t ht' => scanTarget_quoted ht hp _ fun z hz' => hz.1 z (List.mem_flatMap.2 ⟨t, ht', hz'⟩)
    exact ((scanExpr_quoted ht hp value hz.2).seq htargets).tick _
  | annAssign target hint value =>
    rw [Small.noises, List.forall_mem_append, List.forall_mem_append] at hz
    have hhint := (scanHint_quoted ht hp hint.expr hz.1.2).seq (scanTarget_quoted ht hp target hz.1.1)
    cases value with
    | none => exact hhint.tick _
    | some a => exact ((scanExpr_quoted ht hp a.value hz.2).seq hhint).tick _
  | augAssign target sign value =>
    rw [Small.noises, List.forall_mem_append] at hz
    exact ((scanExpr_quoted ht hp value hz.2).seq (scanTarget_quoted ht hp target hz.1)).tick _
  | importNames o as => exact scanAliases_loud p.scope "" as hx
  | importFrom f => exact scanAliases_loud p.scope f.origin f.imported.aliases hx
  | declare reach o names =>
    rw [Small.effects, List.forall_mem_append] at hx
    refine (Scans.foldl_nil fun d hd => .redirect_loud (hx.1 _ (List.mem_map_of_mem hd)) p.scope ?_).tick _
    rintro rfl
    exact hx.2 _ (List.mem_singleton_self _)
  | plain kind ps => exact scanPieces_scans ht _ ps (.of_quoted hz hp)

theorem scanItems_quoted (is : List Item) {s : Scope} (hz : ∀ z ∈ gatherItems hearing s is, z.Quiet N)
    (hx : ∀ y ∈ gatherItems acting s is, N y) : Scans N [] (scanItems onText p is) :=
  .foldl_nil fun i hi => scanSmall_quoted ht hp i.stmt (fun z hz' => hz z (List.mem_flatMap.2 ⟨i, hi, hz'⟩))
    fun y hy => hx y (List.mem_flatMap.2 ⟨i, hi, hy⟩)

theorem scanHeader_quoted (h : Header) (hz : ∀ z ∈ h.noises, z.Quiet N) : Scans N [] (scanHeader onText p h) := by
  cases h with
  | word text => exact .id
  | test o e => exact scanExpr_quoted ht hp e hz
  | handler o e sep name =>
    have hname : Scans N [] (scanName p.target name) := scanName_scans (.of_quoted (fun _ hz' => absurd hz' List.not_mem_nil) hp)
    exact (hname.seq (scanExpr_quoted ht hp e hz)).tick _
  | loop o target sep iter =>
    rw [Header.noises, List.forall_mem_append] at hz
    exact (scanExpr_quoted ht hp iter hz.2).seq ((scanTarget_quoted ht hp target hz.1).tick _)
  | context o items =>
    refine .foldl_nil fun w hw => ?_
    have hw : ∀ z ∈ w.noises, z.Quiet N := fun z hz' => hz z (List.mem_flatMap.2 ⟨w, hw, hz'⟩)
    obtain ⟨value, asTarget, comma⟩ := w
    rw [WithItem.noises, List.forall_mem_append] at hw
    cases asTarget with
    | none => exact (scanExpr_quoted ht hp value hw.1).tick _
    | some a => exact ((scanTarget_quoted ht hp a.target hw.2).seq (scanExpr_quoted ht hp value hw.1)).tick _

end

/-- The statements of a text do nothing but what they are said to do. -/
theorem Node.scan_quoted (ht : QuietTexts N onText) (n : Node) : ∀ (p : Place) (s : Scope), p.quoted = true →
    (∀ z ∈ n.gather hearing s, z.Quiet N) → (∀ y ∈ n.gather acting s, N y) → Scans N [] (n.scan onText p) := by
  induction n using Node.induct with
  | line l => exact fun p s hp hz hx => scanItems_quoted ht hp l.items hz hx
  | inline o is t => exact fun p s hp hz hx => scanItems_quoted ht hp is hz hx
  | compound cs ih | block o i xs f ih => exact ih
  | funcDef h b ih =>
    intro p s hp hz hx
    have hz : ∀ z ∈ h.noises ++ b.gather hearing (h.frame :: s), z.Quiet N := hz
    rw [FuncHead.noises, List.forall_mem_append, List.forall_mem_append, List.forall_mem_append] at hz
    obtain ⟨⟨⟨hdecorators, hparams⟩, hreturns⟩, hbody⟩ := hz
    obtain ⟨hhead, hinside⟩ := List.forall_mem_append.1 hx
    have hname : Scans N [] fun t => t.assign p.scope h.name.text none := .assign_loud (hhead _ List.mem_cons_self) _ _
    have hnames : ∀ n ∈ h.params.filterMap Param.name?, N (.loud n.text) :=
      fun n hn => hhead _ (List.mem_cons_of_mem _ (List.mem_map_of_mem hn))
    have hsuite := (ih (p.inside (h.frame :: p.scope)) (h.frame :: s) hp hbody hinside).seq
      (((scanParams_quoted (p := p) ht (h.frame :: p.scope) h.params hparams hnames).tick (h.frame :: p.scope)).seq hname)
    have hreturn : Scans N [] fun t => h.returns.elim t fun a => scanExpr onText p.hint a.expr t := by
      refine .elim fun a ha => scanHint_quoted ht hp a.expr ?_
      rwa [Option.mem_def.1 ha] at hreturns
    exact (hreturn.seq ((scanDecorators_quoted ht hp h.decorators hdecorators).seq hsuite)).tick p.scope
  | classDef h b ih =>
    intro p s hp hz hx
    have hz : ∀ z ∈ h.noises ++ b.gather hearing (h.frame :: s), z.Quiet N := hz
    rw [ClassHead.noises, List.forall_mem_append, List.forall_mem_append] at hz
    obtain ⟨⟨hdecorators, hargs⟩, hbody⟩ := hz
    obtain ⟨hhead, hinside⟩ := List.forall_mem_append.1 hx
    have hname : Scans N [] fun t => t.assign p.scope h.name.text none := .assign_loud (hhead _ List.mem_cons_self) _ _
    have hbases : Scans N [] fun t => h.args.elim t fun a => a.args.foldl (fun t x => scanExpr onText p x.value t) t := by
      refine .elim fun a ha => .foldl_nil fun x hx' => scanExpr_quoted ht hp x.value fun z hz' => ?_
      rw [Option.mem_def.1 ha] at hargs
      exact hargs z (List.mem_flatMap.2 ⟨x, hx', hz'⟩)
    have hsuite := ih (p.inside (h.frame :: p.scope)) (h.frame :: s) hp hbody hinside
    exact (hsuite.seq (hbases.seq ((scanDecorators_quoted ht hp h.decorators hdecorators).seq hname))).tick p.scope
  | noClause | noStmt => exact fun _ _ _ _ _ => .id
  | clause head b cs ihb ihc =>
    intro p s hp hz hx
    have hz : ∀ z ∈ head.header.noises ++ b.gather hearing s ++ gatherClauses hearing s cs, z.Quiet N := hz
    have hx : ∀ y ∈ b.gather acting s ++ gatherClauses acting s cs, N y := hx
    rw [List.forall_mem_append, List.forall_mem_append] at hz
    rw [List.forall_mem_append] at hx
    exact (ihc p s hp hz.2 hx.2).seq ((ihb p s hp hz.1.2 hx.1).seq (scanHeader_quoted ht hp head.header hz.1.1))
  | next x xs ihx ihxs =>
    intro p s hp hz hx
    have hz : ∀ z ∈ x.gather hearing s ++ gatherStmts hearing s xs, z.Quiet N := hz
    have hx : ∀ y ∈ x.gather acting s ++ gatherStmts acting s xs, N y := hx
    rw [List.forall_mem_append] at hz hx
    exact (ihxs p s hp hz.2 hx.2).seq (ihx p s hp hz.1 hx.1)

theorem scanText_quiet (N : Effect → Prop) (depth : Nat) : QuietTexts N (scanText depth) := by
  induction depth with
  | zero => exact fun _ _ _ _ _ => .id
  | succ depth ih =>
    intro p v s hs hq t htidy
    rw [scanText]
    split
    · exact Scans.id t htidy
    · next m hm =>
      have hbody := Node.scan_quoted ih (.stmts m.body) { p with store := false, quoted := true } [] rfl
        (fun z hz x hx => hq x (.inside hs hm hz hx)) fun x hx => hq x (.act hs hm hx)
      exact hbody.seq (.renumber m.sites) t htidy

theorem scanHintText_quiet (N : Effect → Prop) : QuietTexts N scanHintText :=
  fun p v s => scanText_quiet N (s.length + 1) p v s

/-! ## Targets -/

/-- Names that are assigned to one after the other. -/
def storeBinds (s : Scope) (names : List String) : List (Bind (Option ImportSource)) := names.map fun n => .assign s n none

mutual

/-- A target in a function or class binds the names it stores. -/
theorem scanTarget_scans (ht : QuietTexts N onText) : ∀ (p : Place) (e : Expr) (ns : List String),
    p.scope.isNamed = true ∧ p.store = true ∧ p.quoted = false → e.stored? = some ns → (∀ z ∈ e.noises, z.Quiet N) →
    Scans N (storeBinds p.scope ns) (scanExpr onText p e)
  | p, .name n, ns, hp, hs, _ => by
    cases hs
    have hname : scanExpr onText p (.name n) = fun t => (t.place p.scope n.site).assign p.scope n.text none := by
      funext t
      simp [scanExpr, scanName, hp.2.1, hp.2.2]
    rw [hname]
    exact (Scans.assign hp.1 _ _).comp (.place _ _)
  | p, .paren _ e _, ns, hp, hs, hz => scanTarget_scans ht p e ns hp hs hz
  | p, .attribute v d a, ns, hp, hs, hz => by
    cases hs
    exact scanExpr_scans ht { p.load with dotted := some (p.dotted.getD (.attribute v d a)) } v (.of_load hz rfl)
  | p, .subscript v o ps c, ns, hp, hs, hz => by
    cases hs
    intro t htidy
    have hload : (p.subscript t v).load.Takes N (v.noises ++ walkPieces Expr.noise ps)
        (v.nameTexts ++ walkPieces Expr.nameText ps) := .of_load hz rfl
    exact (Scans.seq (scanPieces_scans ht _ ps hload.right) (scanExpr_scans ht _ v hload.left)) t htidy
  | p, .display _ _ ps _, ns, hp, hs, hz => scanTargetPieces_scans ht p ps ns hp hs hz
  | p, .operation ps, ns, hp, hs, hz => scanTargetPieces_scans ht p ps ns hp hs hz

theorem scanTargetPieces_scans (ht : QuietTexts N onText) : ∀ (p : Place) (ps : List Piece) (ns : List String),
    p.scope.isNamed = true ∧ p.store = true ∧ p.quoted = false → storedPieces? ps = some ns →
    (∀ z ∈ walkPieces Expr.noise ps, z.Quiet N) → Scans N (storeBinds p.scope ns) (scanPieces onText p ps)
  | p, [], ns, hp, hs, _ => by
    cases hs
    exact .id
  | p, .text _ :: ps, ns, hp, hs, hz => by
    have hs : (storedPieces? ps).map ([] ++ ·) = some ns := hs
    simp only [List.nil_append, Option.map_id'] at hs
    exact scanTargetPieces_scans ht p ps ns hp hs hz
  | p, .expr e :: ps, ns, hp, hs, hz => by
    obtain ⟨ns₁, h₁, hs⟩ := Option.bind_eq_some_iff.1 hs
    obtain ⟨ns₂, h₂, rfl⟩ := Option.map_eq_some_iff.1 hs
    have hz : ∀ z ∈ e.noises ++ walkPieces Expr.noise ps, z.Quiet N := hz
    rw [List.forall_mem_append] at hz
    have hboth := (scanTargetPieces_scans ht p ps ns₂ hp h₂ hz.2).comp (scanTarget_scans ht p e ns₁ hp h₁ hz.1)
    rw [storeBinds, List.map_append]
    exact hboth

end

/-! ## Statements -/

/-- The place of a statement. -/
def Place.of (s : Scope) : Place := Place.top.inside s

theorem storeStep_binds (s : Scope) (names : List String) : (storeStep s names).flatMap Step.binds = storeBinds s names := by
  rw [storeStep, List.flatMap_map]
  exact List.map_eq_flatMap.symm

theorem importStep_binds (bs : List Binding) : (importStep bs).flatMap Step.binds = Step.binds (.imports bs) := by
  cases bs with
  | nil => rfl
  | cons b bs => exact List.append_nil _

section
variable {s : Scope} (ht : QuietTexts N onText) (hs : s.isNamed = true)
include hs

theorem scanAliases_scans (origin : Option String) (as : List Alias) :
    Scans N ((importStep (bindAll s origin as)).flatMap Step.binds) (scanAliases s (origin.getD "") as) := by
  have hbinds : (importStep (bindAll s origin as)).flatMap Step.binds = (as.flatMap Alias.bound).flatMap fun n =>
      [.assign s n (some ⟨origin.getD "", as.map Alias.imported⟩)] := by
    rw [importStep_binds, Step.binds, ← List.map_eq_flatMap, List.map_flatMap]
    simp only [bindAll, List.map_map, List.flatMap_map]
    rfl
  rw [hbinds]
  exact (Scans.foldl fun n _ => .assign hs n _).tick _

omit hs
include ht

theorem scanExpr_of (e : Expr) (hz : ∀ z ∈ e.noises, z.Quiet N) : Scans N [] (scanExpr onText (.of s) e) :=
  scanExpr_scans ht _ e (.of_load hz rfl)

theorem scanHint_of (e : Expr) (hz : ∀ z ∈ e.noises, z.Quiet N) : Scans N [] (scanExpr onText (Place.of s).hint e) :=
  scanExpr_scans ht _ e (.of_load hz rfl)

theorem scanDecorators_of (ds : List Decorator) (hz : ∀ z ∈ ds.flatMap (fun d => d.expr.noises), z.Quiet N) :
    Scans N [] (scanDecorators onText (.of s) ds) :=
  .foldl_nil fun d hd => scanExpr_of ht _ fun z hz' => hz z (List.mem_flatMap.2 ⟨d, hd, hz'⟩)

include hs

theorem scanTarget_of (e : Expr) (hz : ∀ z ∈ e.targetNoises, z.Quiet N) :
    Scans N (storeBinds s e.stored) (scanExpr onText (Place.of s).target e) := by
  unfold Expr.targetNoises at hz
  unfold Expr.stored
  cases hstored : e.stored? with
  | none =>
    rw [hstored] at hz
    obtain ⟨hloud, hz⟩ := List.forall_mem_append.1 hz
    exact scanExpr_scans ht (Place.of s).target e
      ⟨hz, fun _ _ => .inr fun n hn => hloud _ (List.mem_map_of_mem hn) _ (.loud n)⟩
  | some ns =>
    rw [hstored] at hz
    exact scanTarget_scans ht (Place.of s).target e ns ⟨hs, rfl, rfl⟩ hstored hz

theorem scanTargets_of (targets : List Target) (hz : ∀ z ∈ targets.flatMap fun t => t.target.targetNoises, z.Quiet N) :
    Scans N (targets.flatMap fun t => storeBinds s t.target.stored)
      fun t => targets.foldl (fun t x => scanExpr onText (Place.of s).target x.target t) t :=
  .foldl fun t ht' => scanTarget_of ht hs _ fun z hz' => hz z (List.mem_flatMap.2 ⟨t, ht', hz'⟩)

/-- The target and the annotation of an annotated assignment. -/
theorem scanAnnotated_of (target : Expr) (hint : Hint) (ht' : ∀ z ∈ target.targetNoises, z.Quiet N)
    (hh : ∀ z ∈ hint.expr.noises, z.Quiet N) : Scans N (storeBinds s target.stored)
      fun t => scanExpr onText (Place.of s).hint hint.expr (scanExpr onText (Place.of s).target target t) :=
  (scanHint_of (s := s) ht hint.expr hh).seq (scanTarget_of ht hs target ht')

theorem scanSmall_scans (x : Small) (hz : ∀ z ∈ x.heard, z.Quiet N) :
    Scans N ((x.steps s).flatMap Step.binds) (scanSmall onText (.of s) x) := by
  cases x with
  | expr e =>
    cases e with
    | string text => exact .id
    | _ => exact scanExpr_of ht _ hz
  | assign targets value =>
    obtain ⟨htargets, hvalue⟩ := List.forall_mem_append.1 hz
    rw [Small.steps, storeStep_binds, storeBinds, List.map_flatMap]
    exact ((scanExpr_of ht value hvalue).seq (scanTargets_of ht hs targets htargets)).tick _
  | annAssign target hint value =>
    obtain ⟨hdeclared, hvalue⟩ := List.forall_mem_append.1 hz
    obtain ⟨htarget, hannotation⟩ := List.forall_mem_append.1 hdeclared
    rw [Small.steps, storeStep_binds]
    have hhint := scanAnnotated_of ht hs target hint htarget hannotation
    cases value with
    | none => exact hhint.tick _
    | some a => exact ((scanExpr_of ht a.value hvalue).seq hhint).tick _
  | augAssign target sign value =>
    obtain ⟨htarget, hvalue⟩ := List.forall_mem_append.1 hz
    rw [Small.steps, storeStep_binds]
    exact ((scanExpr_of ht value hvalue).seq (scanTarget_of ht hs target htarget)).tick _
  | importNames o as => exact scanAliases_scans hs none as
  | importFrom f => exact scanAliases_scans hs (some f.origin) f.imported.aliases
  | declare reach o names =>
    rw [Small.steps, List.flatMap_map]
    exact (Scans.foldl fun d _ => .redirect hs reach d.name.text).tick _
  | plain kind ps => exact scanPieces_scans ht _ ps (.of_load hz rfl)

theorem scanItems_scans (is : List Item) (hz : ∀ z ∈ gatherItems listening s is, z.Quiet N) :
    Scans N ((gatherItems stepping s is).flatMap Step.binds) (scanItems onText (.of s) is) := by
  rw [gatherItems, List.flatMap_assoc]
  exact .foldl fun i hi => scanSmall_scans ht hs i.stmt fun z hz' => hz z (List.mem_flatMap.2 ⟨i, hi, hz'⟩)

theorem scanWithItem_scans (w : WithItem) (hz : ∀ z ∈ w.noises, z.Quiet N) :
    Scans N (storeBinds s ((w.asTarget.map fun a => a.target.stored).getD [])) (scanWithItem onText (.of s) w) := by
  obtain ⟨value, asTarget, comma⟩ := w
  rw [WithItem.noises, List.forall_mem_append] at hz
  cases asTarget with
  | none => exact (scanExpr_of ht value hz.1).tick _
  | some a => exact ((scanTarget_of ht hs a.target hz.2).comp (scanExpr_of ht value hz.1)).tick _

theorem scanHeader_scans (h : Header) (hz : ∀ z ∈ h.noises, z.Quiet N) :
    Scans N ((h.steps s).flatMap Step.binds) (scanHeader onText (.of s) h) := by
  cases h with
  | word text => exact .id
  | test o e => exact scanExpr_of ht e hz
  | handler o e sep name =>
    have hname : Scans N (storeBinds s [name.text]) (scanName (Place.of s).target name) :=
      (Scans.assign hs _ _).comp (.place _ _)
    exact (hname.comp (scanExpr_of ht e hz)).tick _
  | loop o target sep iter =>
    rw [Header.noises, List.forall_mem_append] at hz
    rw [Header.steps, storeStep_binds]
    exact (scanExpr_of ht iter hz.2).seq ((scanTarget_of ht hs target hz.1).tick _)
  | context o items =>
    rw [Header.steps, storeStep_binds, storeBinds, List.map_flatMap]
    exact .foldl fun w hw => scanWithItem_scans ht hs w fun z hz' => hz z (List.mem_flatMap.2 ⟨w, hw, hz'⟩)

omit hs

/-- The parameters of a function. -/
theorem scanParams_of {s' : Scope} (hs' : s'.isNamed = true) (ps : List Param)
    (hz : ∀ z ∈ walkParams Expr.noise ps, z.Quiet N) :
    Scans N (storeBinds s' ((ps.filterMap Param.name?).map Name.text)) (scanParams onText (.of s) s' ps) := by
  induction ps with
  | nil => exact .id
  | cons x ps ih =>
    rw [walkParams, List.forall_mem_append] at hz
    cases x with
    | star _ | slash _ => exact ih hz.2
    | named star name hint value comma =>
      have hparts : ∀ z ∈ walkPieces Expr.noise hint ++ walkPieces Expr.noise value, z.Quiet N := hz.1
      rw [List.forall_mem_append] at hparts
      have hname : Scans N [.assign s' name.text none] (scanParam onText (.of s) s' (.named star name hint value comma)) :=
        (scanPieces_scans ht _ hint (.of_load hparts.1 rfl)).seq
          ((scanPieces_scans ht _ value (.of_load hparts.2 rfl)).seq (.assign hs' _ _))
      exact (ih hz.2).comp hname

theorem scanReturns_of (returns : Option Hint) (hz : ∀ z ∈ (returns.map fun a => a.expr.noises).getD [], z.Quiet N) :
    Scans N [] fun t => returns.elim t fun a => scanExpr onText (Place.of s).hint a.expr t := by
  refine .elim fun a ha => scanHint_of ht a.expr ?_
  rwa [Option.mem_def.1 ha] at hz

theorem scanClassArgs_of (args : Option ClassArgs)
    (hz : ∀ z ∈ (args.map fun a => a.args.flatMap fun x => x.value.noises).getD [], z.Quiet N) :
    Scans N [] fun t => args.elim t fun a => a.args.foldl (fun t x => scanExpr onText (.of s) x.value t) t := by
  refine .elim fun a ha => .foldl_nil fun x hx => scanExpr_of ht x.value fun z hz' => ?_
  rw [Option.mem_def.1 ha] at hz
  exact hz z (List.mem_flatMap.2 ⟨x, hx, hz'⟩)

/-- Scanning a node does its steps. -/
theorem Node.scan_scans (n : Node) : ∀ s : Scope, s.isNamed = true → (∀ z ∈ n.gather listening s, z.Quiet N) →
    Scans N ((n.gather stepping s).flatMap Step.binds) (n.scan onText (.of s)) := by
  induction n using Node.induct with
  | line l => exact fun s hs hz => scanItems_scans ht hs l.items hz
  | inline o is t => exact fun s hs hz => scanItems_scans ht hs is hz
  | compound cs ih | block o i xs f ih => exact ih
  | funcDef h b ih =>
    intro s hs hz
    have hz : ∀ z ∈ h.noises ++ b.gather listening (h.frame :: s), z.Quiet N := hz
    rw [FuncHead.noises, List.forall_mem_append, List.forall_mem_append, List.forall_mem_append] at hz
    obtain ⟨⟨⟨hdecorators, hparams⟩, hreturns⟩, hbody⟩ := hz
    have hframe : Scope.isNamed (h.frame :: s) = true := hs
    have hname : Scans N (storeBinds s [h.name.text]) fun t => t.assign s h.name.text none := .assign hs _ _
    have hhead := ((scanParams_of (s := s) ht hframe h.params hparams).tick (h.frame :: s)).comp hname
    have hwhole := (scanReturns_of (s := s) ht h.returns hreturns).seq
      ((scanDecorators_of (s := s) ht h.decorators hdecorators).seq ((ih (h.frame :: s) hframe hbody).comp hhead))
    have hbinds : ((Node.stmt (.funcDef h b)).gather stepping s).flatMap Step.binds =
        storeBinds s [h.name.text] ++ storeBinds (h.frame :: s) ((h.params.filterMap Param.name?).map Name.text) ++
          ((Node.suite b).gather stepping (h.frame :: s)).flatMap Step.binds := by
      rw [← storeStep_binds, ← storeStep_binds, ← List.flatMap_append, ← List.flatMap_append]
      rfl
    rw [hbinds]
    exact hwhole.tick s
  | classDef h b ih =>
    intro s hs hz
    have hz : ∀ z ∈ h.noises ++ b.gather listening (h.frame :: s), z.Quiet N := hz
    rw [ClassHead.noises, List.forall_mem_append, List.forall_mem_append] at hz
    obtain ⟨⟨hdecorators, hargs⟩, hbody⟩ := hz
    have hframe : Scope.isNamed (h.frame :: s) = true := hs
    have hname : Scans N (storeBinds s [h.name.text]) fun t => t.assign s h.name.text none := .assign hs _ _
    have hhead := (scanClassArgs_of (s := s) ht h.args hargs).seq
      ((scanDecorators_of (s := s) ht h.decorators hdecorators).seq hname)
    exact ((ih (h.frame :: s) hframe hbody).comp hhead).tick s
  | noClause | noStmt => exact fun _ _ _ => .id
  | clause head b cs ihb ihc =>
    intro s hs hz
    have hz : ∀ z ∈ head.header.noises ++ b.gather listening s ++ gatherClauses listening s cs, z.Quiet N := hz
    rw [List.forall_mem_append, List.forall_mem_append] at hz
    have hwhole := (ihc s hs hz.2).comp ((ihb s hs hz.1.2).comp (scanHeader_scans ht hs head.header hz.1.1))
    rw [← List.flatMap_append, ← List.flatMap_append] at hwhole
    exact hwhole
  | next x xs ihx ihxs =>
    intro s hs hz
    have hz : ∀ z ∈ x.gather listening s ++ gatherStmts listening s xs, z.Quiet N := hz
    rw [List.forall_mem_append] at hz
    have hwhole := (ihxs s hs hz.2).comp (ihx s hs hz.1)
    rw [← List.flatMap_append] at hwhole
    exact hwhole

end

end

/-! ## Modules -/

/-- The table of a module, whether or not something went wrong. -/
def Module.table (m : Module) : Table := scanStmts scanHintText .top m.body (.empty m.sites)

theorem Module.scan_eq (m : Module) : m.scan = match m.table.error with | some e => .error e | none => .ok m.table := rfl

theorem Module.scan_of_error {m : Module} (h : m.table.error = none) : m.scan = .ok m.table := by rw [Module.scan_eq, h]

theorem Module.table_of_scan {m : Module} {t : Table} (h : m.scan = .ok t) : t = m.table := by
  rw [Module.scan_eq] at h
  split at h
  · cases h
  · exact (Except.ok.inj h).symm

theorem Module.error_of_scan {m : Module} {t : Table} (h : m.scan = .ok t) : m.table.error = none := by
  rw [Module.scan_eq] at h
  split at h
  · cases h
  · assumption

/-- What may come of the noises of a module. -/
def Module.Makes (m : Module) (x : Effect) : Prop := ∃ z ∈ m.gather listening, z.Makes x

/-- A module of whose noises come only effects in `N`. -/
def Module.Quiet (N : Effect → Prop) (m : Module) : Prop := ∀ z ∈ m.gather listening, z.Quiet N

theorem Module.quiet_makes (m : Module) : m.Quiet m.Makes := fun z hz _ hx => ⟨z, hz, hx⟩

/-- In a module without texts nothing happens but what its noises say. -/
theorem Module.mem_of_makes {m : Module} (h : ∀ z ∈ m.gather listening, z.effect?.isSome = true) {x : Effect} (hx : m.Makes x) :
    x ∈ (m.gather listening).filterMap Noise.effect? := by
  obtain ⟨z, hz, hmakes⟩ := hx
  have htext := h z hz
  refine List.mem_filterMap.2 ⟨z, hz, ?_⟩
  cases hmakes with
  | inner n | loud n => rfl
  | _ => cases htext

/-- The table of a module is made by its steps. -/
theorem Module.table_goes {N : Effect → Prop} {m : Module} (h : m.Quiet N) : Goes N m.binds (.empty m.sites) m.table := by
  refine Node.scan_scans (scanHintText_quiet N) (.stmts m.body) [] rfl h _ ?_
  intro r hr
  cases hr

/-- A binding binds its names, and each of them knows the whole statement. -/
theorem exists_bind_of_binding {xs : List Step} {b : Binding} (h : b ∈ xs.flatMap Step.bindings) {name : String}
    (hname : name ∈ b.imported.bound) : ∃ bs, .imports bs ∈ xs ∧ b ∈ bs ∧
      .assign b.scope name (some ⟨b.origin.getD "", bs.map fun b => b.imported.imported⟩) ∈ Step.binds (.imports bs) := by
  obtain ⟨x, hx, hb⟩ := List.mem_flatMap.1 h
  cases x with
  | bind _ => cases hb
  | imports bs => exact ⟨bs, hx, hb, List.mem_flatMap.2 ⟨b, hb, List.mem_map_of_mem hname⟩⟩

end AttrsUpgrade
