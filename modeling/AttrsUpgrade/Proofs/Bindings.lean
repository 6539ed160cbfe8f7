import AttrsUpgrade.Proofs.Gather
/-!
# What is bound where

`Module.steps` lists, in the order of name resolution, what a module does to names: the names that an import statement binds
as one step, every other assignment and every `global` or `nonlocal` declaration as a step of its own. A run of the
transformation changes little of this: replaced assignments bind the first of their targets (`Item.Replaced.steps`), adding imports
adds bindings (`addImports_steps`), and removing imports takes out bindings that may go and are not in use
(`removeImports_steps`).
-/

namespace AttrsUpgrade

/-! ## Steps -/

mutual

/-- The names that are assigned to when an expression is a target; `none` if it cannot be one. -/
def Expr.stored? : Expr → Option (List String)
  | .name n => some [n.text]
  | .paren _ e _ => e.stored?
  | .attribute _ _ _ => some []
  | .subscript _ _ _ _ => some []
  | .display _ _ ps _ => storedPieces? ps
  | .operation ps => storedPieces? ps
  | _ => none

def Piece.stored? : Piece → Option (List String)
  | .text _ => some []
  | .expr e => e.stored?

def storedPieces? : List Piece → Option (List String)
  | [] => some []
  | p :: ps => p.stored?.bind fun ns => (storedPieces? ps).map (ns ++ ·)

end

def Expr.stored (e : Expr) : List String := e.stored?.getD []

/-- Something that happens to a name in a scope. -/
inductive Bind (α : Type) where
  | assign (s : Scope) (name : String) (source : α)
  | declare (s : Scope) (reach : Reach) (name : String)

/-- An alias without its comma. -/
def Alias.bare (a : Alias) : Alias := { a with comma := none }

/-- One name of an import statement. -/
structure Binding where
  scope : Scope
  /-- Where a `from` import takes its names from. -/
  origin : Option String
  imported : Alias
deriving DecidableEq, Repr

/-- What aliases bind in a scope. -/
def bindAll (s : Scope) (origin : Option String) (as : List Alias) : List Binding := (as.map Alias.bare).map (.mk s origin)

theorem bindAll_append (s : Scope) (origin : Option String) (as bs : List Alias) :
    bindAll s origin (as ++ bs) = bindAll s origin as ++ bindAll s origin bs := by
  simp [bindAll]

theorem mem_bindAll {s : Scope} {origin : Option String} {as : List Alias} {b : Binding} :
    b ∈ bindAll s origin as ↔ ∃ a ∈ as, b = ⟨s, origin, a.bare⟩ := by
  simp [bindAll, eq_comm]

inductive Step where
  /-- The names of one import statement. -/
  | imports (bs : List Binding)
  | bind (b : Bind (Option ImportSource))

def Step.bindings : Step → List Binding
  | .imports bs => bs
  | .bind _ => []

/-- What a step does to names. Every name of an import statement knows all of them. -/
def Step.binds : Step → List (Bind (Option ImportSource))
  | .imports bs => bs.flatMap fun b => b.imported.bound.map fun n =>
      .assign b.scope n (some ⟨b.origin.getD "", bs.map fun b => b.imported.imported⟩)
  | .bind b => [b]

/-- The step of an import statement; none if it names nothing. -/
def importStep : List Binding → List Step
  | [] => []
  | b :: bs => [.imports (b :: bs)]

def storeStep (s : Scope) (names : List String) : List Step := names.map fun n => .bind (.assign s n none)

def Small.steps (s : Scope) : Small → List Step
  | .assign targets _ => storeStep s (targets.flatMap fun t => t.target.stored)
  | .annAssign target _ _ => storeStep s target.stored
  | .augAssign target _ _ => storeStep s target.stored
  | .importNames _ as => importStep (bindAll s none as)
  | .importFrom f => importStep (bindAll s (some f.origin) f.imported.aliases)
  | .declare reach _ names => names.map fun d => .bind (.declare s reach d.name.text)
  | .expr _ => []
  | .plain _ _ => []

def Header.steps (s : Scope) : Header → List Step
  | .handler _ _ _ name => storeStep s [name.text]
  | .loop _ target _ _ => storeStep s target.stored
  | .context _ items => storeStep s (items.flatMap fun w => (w.asTarget.map fun a => a.target.stored).getD [])
  | .word _ => []
  | .test _ _ => []

/-- A function binds its name where it stands and its parameters inside. -/
def FuncHead.steps (s : Scope) (h : FuncHead) : List Step :=
  storeStep s [h.name.text] ++ storeStep (h.frame :: s) ((h.params.filterMap Param.name?).map Name.text)

def ClassHead.steps (s : Scope) (h : ClassHead) : List Step := storeStep s [h.name.text]

/-- What the pieces of statements do to names. -/
def stepping : Gather Step where
  small := Small.steps
  func := FuncHead.steps
  cls := ClassHead.steps
  head := Header.steps

def Module.steps (m : Module) : List Step := m.gather stepping

def Module.bindings (m : Module) : List Binding := m.steps.flatMap Step.bindings

def Module.binds (m : Module) : List (Bind (Option ImportSource)) := m.steps.flatMap Step.binds

theorem stepping_blind : stepping.Blind := ⟨fun _ _ _ => rfl, fun _ _ _ => rfl⟩

theorem importStep_bindings (bs : List Binding) : (importStep bs).flatMap Step.bindings = bs := by
  cases bs with
  | nil => rfl
  | cons b bs => exact List.append_nil _

theorem storeStep_bindings (s : Scope) (names : List String) : (storeStep s names).flatMap Step.bindings = [] := by
  simp [storeStep, List.flatMap_map, Step.bindings]

/-! ## Edits -/

section
variable {r : Resolver}

@[simp] theorem Arg.renew_value (a : Arg) : a.renew.value = a.value := by
  unfold Arg.renew
  cases a.kind <;> rfl

theorem FieldArgs.build_target {f : FieldArgs} {target : Expr} {hint : Option Hint} {force : Bool} {source : FieldSource}
    {x : Small} (h : f.build target hint force source = .ok x) (s : Scope) : x.steps s = storeStep s target.stored := by
  obtain ⟨v, -, rfl⟩ := FieldArgs.build_eq_ok.1 h
  cases hint with
  | none => simp [Small.declaring, Small.steps]
  | some a => rfl

/-- What replaces an assignment binds the first of its targets. -/
theorem upgradeSmall?_steps {st : State} {x y : Small} (h : upgradeSmall? r st x = .ok (some y)) :
    ∃ target ∈ x.target?, ∀ s, y.steps s = storeStep s target.stored := by
  obtain ⟨target, value, c, htarget, -, -, -, hbuild⟩ := upgradeSmall?_built h
  exact ⟨target, htarget, FieldArgs.build_target hbuild⟩

/-- What the targets of an assignment after the first one bind. -/
def Small.laterNames : Small → List String
  | .assign (_ :: ts) _ => ts.flatMap fun t => t.target.stored
  | _ => []

theorem Small.steps_of_target {x : Small} {target : Expr} (h : target ∈ x.target?) (s : Scope) :
    x.steps s = storeStep s target.stored ++ storeStep s x.laterNames := by
  unfold Small.target? at h
  split at h
  · cases h
    simp [Small.steps, Small.laterNames, storeStep]
  · cases h
    simp [Small.steps, Small.laterNames, storeStep]
  · cases h

theorem Item.Replaced.steps {i i' : Item} (h : i.Replaced r i') (s : Scope) :
    i.stmt.steps s = i'.stmt.steps s ++ storeStep s i.stmt.laterNames := by
  obtain ⟨st, hs⟩ := h.new
  obtain ⟨target, ht, hsteps⟩ := upgradeSmall?_steps hs
  rw [hsteps s, Small.steps_of_target ht]

end

/-! ## Imports that are added -/

/-- Imports from the package bind in addition names that are `new`, and there are new imports; the other steps are the same. -/
inductive StepsGrow (new : Binding → Prop) : List Step → List Step → Prop
  | nil : StepsGrow new [] []
  | same (x : Step) {xs ys : List Step} : StepsGrow new xs ys → StepsGrow new (x :: xs) (x :: ys)
  | more {bs bs' : List Binding} {xs ys : List Step} : (∀ b ∈ bs, b.origin = some packageName) → (∀ b ∈ bs', new b) →
      StepsGrow new xs ys → StepsGrow new (.imports bs :: xs) (.imports (bs' ++ bs) :: ys)
  | insert {bs : List Binding} {xs ys : List Step} : (∀ b ∈ bs, new b) → StepsGrow new xs ys →
      StepsGrow new xs (.imports bs :: ys)

namespace StepsGrow
variable {new : Binding → Prop} {xs ys : List Step}

theorem refl (xs : List Step) : StepsGrow new xs xs := by
  induction xs with
  | nil => exact .nil
  | cons x xs ih => exact .same x ih

theorem piecewise : Piecewise (StepsGrow new) where
  nil := .nil
  append h h' := by
    induction h with
    | nil => exact h'
    | same x _ ih => exact .same x ih
    | more ho hb _ ih => exact .more ho hb ih
    | insert hb _ ih => exact .insert hb ih

theorem import_new {bs : List Binding} (h : ∀ b ∈ bs, new b) : StepsGrow new [] (importStep bs) := by
  cases bs with
  | nil => exact .nil
  | cons b bs => exact .insert h .nil

theorem import_grows {bs bs' : List Binding} (ho : ∀ b ∈ bs, b.origin = some packageName) (h : ∀ b ∈ bs', new b) :
    StepsGrow new (importStep bs) (importStep (bs' ++ bs)) := by
  cases bs with
  | nil =>
    rw [List.append_nil]
    exact import_new h
  | cons b bs =>
    cases bs' with
    | nil => exact .refl _
    | cons b' bs' => exact .more ho h .nil

theorem kept (h : StepsGrow new xs ys) : (xs.flatMap Step.bindings).Sublist (ys.flatMap Step.bindings) := by
  induction h with
  | nil => exact .refl _
  | same x _ ih => exact (List.Sublist.refl _).append ih
  | @more bs bs' _ _ _ _ _ ih => exact (List.sublist_append_right bs' bs).append ih
  | @insert bs _ _ _ _ ih => exact ih.trans (List.sublist_append_right bs _)

theorem added (h : StepsGrow new xs ys) : ∀ b ∈ ys.flatMap Step.bindings, b ∈ xs.flatMap Step.bindings ∨ new b := by
  induction h with
  | nil => exact fun _ => .inl
  | same x _ ih =>
    intro b hb
    rw [List.flatMap_cons, List.mem_append] at hb ⊢
    rcases hb with hb | hb
    · exact .inl (.inl hb)
    · exact (ih b hb).imp_left .inr
  | more _ hnew _ ih =>
    intro b hb
    simp only [List.flatMap_cons, Step.bindings, List.mem_append] at hb ⊢
    rcases hb with (hb | hb) | hb
    · exact .inr (hnew b hb)
    · exact .inl (.inl hb)
    · exact (ih b hb).imp_left .inr
  | insert hnew _ ih =>
    intro b hb
    rw [List.flatMap_cons, List.mem_append] at hb
    exact hb.elim (fun hb => .inr (hnew b hb)) (ih b)

end StepsGrow

theorem FromImport.origin_of_absolute {f : FromImport} {source : String} (h : f.absolute? = some source) :
    f.origin = source := by
  unfold FromImport.absolute? at h
  split at h
  · next hl => simp [FromImport.origin, hl, h]
  · cases h

theorem Small.receive_steps {new : Binding → Prop} {names : List Alias}
    (hnew : ∀ a ∈ names, ∀ s, new ⟨s, some packageName, a.bare⟩) (s : Scope) (x : Small) :
    StepsGrow new (x.steps s) ((x.receive names).1.steps s) := by
  cases x with
  | importFrom f =>
    simp only [Small.receive]
    split
    · exact .refl _
    · next parens as he =>
      split
      · next ha =>
        have ho : FromImport.origin { f with imported := .names parens (names ++ as) } = packageName :=
          FromImport.origin_of_absolute ha
        simp only [Small.steps, he, Imported.aliases, FromImport.origin_of_absolute ha, ho, bindAll_append]
        refine .import_grows (fun b hb => ?_) fun b hb => ?_
        · obtain ⟨a, -, rfl⟩ := mem_bindAll.1 hb
          rfl
        · obtain ⟨a, ha, rfl⟩ := mem_bindAll.1 hb
          exact hnew a ha s
      · exact .refl _
  | _ => exact .refl _

/-- What a module may be given: the package at the top level, and names of the package. -/
def IsAdded (package : Bool) (names : List String) (b : Binding) : Prop :=
  package = true ∧ b = ⟨[], none, .ofName packageName⟩ ∨
    ∃ name ∈ names, b.origin = some packageName ∧ b.imported = .ofName name

theorem newImports_steps (package : Bool) (names : List Alias) : gatherStmts stepping [] (newImports package names) =
    (if package then [.imports [⟨[], none, .ofName packageName⟩]] else []) ++
      importStep (bindAll [] (some packageName) names) := by
  have hnames : gatherStmts stepping [] (newImports false names) = importStep (bindAll [] (some packageName) names) := by
    cases names with
    | nil => rfl
    | cons a as => rfl
  cases package with
  | false => exact hnames
  | true => exact congrArg (Step.imports [⟨[], none, .ofName packageName⟩] :: ·) hnames

/-- Adding imports adds bindings and changes nothing else. -/
theorem addImports_steps {m m' : Module} {needs : List Need} (h : m.addImports needs = .ok m') :
    StepsGrow (IsAdded (m.imports.missing needs).package (m.imports.missing needs).objects) m.steps m'.steps := by
  have hnew : ∀ names ⊆ m.newNames needs, ∀ a ∈ names, ∀ s,
      IsAdded (m.imports.missing needs).package (m.imports.missing needs).objects ⟨s, some packageName, a.bare⟩ := by
    intro names hn a ha s
    obtain ⟨name, hname, rfl⟩ := List.mem_map.1 (hn ha)
    exact .inr ⟨name, hname, rfl, rfl⟩
  refine addImports_gather StepsGrow.piecewise stepping_blind (.of_refl .refl _)
    (fun names hn s x => x.receive_steps (hnew names hn) s) (fun names hn => ?_) h
  have hpackage : StepsGrow (IsAdded (m.imports.missing needs).package (m.imports.missing needs).objects) []
      (if (m.imports.missing needs).package then [.imports [⟨[], none, .ofName packageName⟩]] else []) := by
    split
    · next hp => exact .insert (fun b hb => .inl ⟨hp, List.mem_singleton.1 hb⟩) .nil
    · exact .nil
  have hnames : ∀ b ∈ bindAll [] (some packageName) names,
      IsAdded (m.imports.missing needs).package (m.imports.missing needs).objects b := by
    intro b hb
    obtain ⟨a, ha, rfl⟩ := mem_bindAll.1 hb
    exact hnew names hn a ha []
  rw [newImports_steps]
  exact StepsGrow.piecewise.append hpackage (.import_new hnames)

/-! ## Imports that go -/

/-- What may go of the imports from an origin. -/
def removableFrom : Option String → List String
  | none => removablePackages
  | some source => removableNames source

/-- Whether a binding goes. -/
def Usage.dropsBinding (u : Usage) (b : Binding) : Bool := u.drops b.scope (removableFrom b.origin) b.imported

/-- What is left of a step. -/
def Step.drop (u : Usage) : Step → List Step
  | .imports bs => importStep (bs.filter fun b => !u.dropsBinding b)
  | .bind b => [.bind b]

theorem importStep_drop (u : Usage) (bs : List Binding) :
    (importStep bs).flatMap (Step.drop u) = importStep (bs.filter fun b => !u.dropsBinding b) := by
  cases bs with
  | nil => rfl
  | cons b bs => exact List.append_nil _

/-- Only imports go. -/
theorem binds_drop {α : Type} (u : Usage) (f : α → Bind (Option ImportSource)) (xs : List α) :
    (xs.map fun a => Step.bind (f a)).flatMap (Step.drop u) = xs.map fun a => .bind (f a) := by
  rw [List.flatMap_map]
  exact List.map_eq_flatMap.symm

theorem drop_bindings (u : Usage) (xs : List Step) : (xs.flatMap (Step.drop u)).flatMap Step.bindings =
    (xs.flatMap Step.bindings).filter fun b => !u.dropsBinding b := by
  rw [List.flatMap_assoc, List.filter_flatMap]
  congr 1
  funext x
  cases x with
  | imports bs => exact importStep_bindings _
  | bind b => rfl

theorem passComma_bare (c : Comma) (as : List Alias) : (passComma c as).map Alias.bare = as.map Alias.bare := by
  induction as with
  | nil => rfl
  | cons a as ih =>
    cases as with
    | nil =>
      simp only [passComma, List.map_cons, List.map_nil, Alias.takeComma]
      split <;> rfl
    | cons a' as => exact congrArg (a.bare :: ·) ih

theorem keepAliases_bare (drop : Alias → Bool) (as : List Alias) : ∀ front,
    (keepAliases drop front as).map Alias.bare = front.map Alias.bare ++ (as.filter fun a => !drop a).map Alias.bare := by
  induction as with
  | nil => simp [keepAliases]
  | cons a as ih =>
    intro front
    rw [keepAliases, List.filter_cons]
    cases hd : drop a with
    | true =>
      rw [if_pos rfl, ih]
      cases a.comma with
      | none => simp
      | some c => simp [passComma_bare]
    | false => simp [ih]

theorem closeAliases_bare (drop : Alias → Bool) (old new : List Alias) :
    (closeAliases drop old new).map Alias.bare = new.map Alias.bare := by
  have hlast : ∀ as, (dropLastComma as).map Alias.bare = as.map Alias.bare := by
    intro as
    induction as with
    | nil => rfl
    | cons a as ih =>
      cases as with
      | nil => rfl
      | cons a' as => exact congrArg (a.bare :: ·) ih
  unfold closeAliases
  split
  · exact hlast new
  · rfl

theorem bindAll_filter (u : Usage) (s : Scope) (origin : Option String) (as : List Alias) :
    bindAll s origin (as.filter fun a => !u.drops s (removableFrom origin) a) =
      (bindAll s origin as).filter fun b => !u.dropsBinding b := by
  unfold bindAll
  rw [List.filter_map, List.filter_map]
  rfl

theorem origin_ne_of_relative {f : FromImport} (h : f.absolute? = none) : f.origin ≠ "attr" ∧ f.origin ≠ "attrs" := by
  unfold FromImport.absolute? at h
  cases hl : f.level with
  | zero =>
    rw [if_pos hl, Option.map_eq_none_iff] at h
    simp [FromImport.origin, hl, h]
  | succ n =>
    constructor <;> intro ho <;>
      simpa [FromImport.origin, hl, List.replicate_succ] using congrArg (fun o => o.toList.head?) ho

/-- A relative import is none of those that may go. -/
theorem removableNames_of_relative {f : FromImport} (h : f.absolute? = none) : removableNames f.origin = [] := by
  simp [removableNames, origin_ne_of_relative h]

theorem Small.dropAliases_steps (u : Usage) (s : Scope) (x : Small) :
    ((x.dropAliases u s).map (Small.steps s)).getD [] = (x.steps s).flatMap (Step.drop u) := by
  cases x with
  | importNames o as =>
    simp only [Small.dropAliases, Small.steps, importStep_drop, ← bindAll_filter, removableFrom]
    split
    · next hk => rw [hk]; rfl
    · next hk => simp [Small.steps, bindAll, closeAliases_bare]
  | importFrom f =>
    simp only [Small.dropAliases, Small.steps, importStep_drop, ← bindAll_filter, removableFrom]
    split
    · next source parens as ha he =>
      have hkept := keepAliases_bare (u.drops s (removableNames source)) as []
      rw [FromImport.origin_of_absolute ha, he]
      split
      · next hk =>
        rw [hk] at hkept
        simp only [List.map_nil, List.nil_append] at hkept
        simp [bindAll, Imported.aliases, ← hkept, importStep]
      · have ho : ∀ imported, FromImport.origin { f with imported } = source :=
          fun _ => FromImport.origin_of_absolute ha
        simp only [Option.map_some, Option.getD_some, Small.steps, bindAll, Imported.aliases, closeAliases_bare, ho, hkept,
          List.map_nil, List.nil_append]
    · next hno =>
      cases hi : f.imported with
      | star => simp [Small.steps, hi, Imported.aliases]
      | names parens as =>
        have ha : f.absolute? = none := by
          cases ha : f.absolute? with
          | none => rfl
          | some source => exact (hno source parens as ha hi).elim
        simp [Small.steps, hi, removableNames_of_relative ha, Usage.drops]
  | declare reach o names => exact (binds_drop u _ names).symm
  | assign targets value => exact (binds_drop u _ _).symm
  | annAssign target hint value => exact (binds_drop u _ _).symm
  | augAssign target sign value => exact (binds_drop u _ _).symm
  | expr e => rfl
  | plain kind pieces => rfl

/-- Removing imports takes out bindings that may go and are not in use. -/
theorem removeImports_steps (u : Usage) (n : Node) (s : Scope) :
    (n.removeImports u s).gather stepping s = (n.gather stepping s).flatMap (Step.drop u) := by
  have hR : Piecewise fun xs ys : List Step => ys = xs.flatMap (Step.drop u) :=
    ⟨rfl, fun h h' => by rw [h, h', List.flatMap_append]⟩
  have hstore : ∀ s names, storeStep s names = (storeStep s names).flatMap (Step.drop u) := fun _ _ => (binds_drop u _ _).symm
  refine Node.removeImports_gather hR ⟨?_, ?_, ?_⟩ (Small.dropAliases_steps u) n s
  · exact fun s h => hR.append (hstore _ _) (hstore _ _)
  · exact fun s h => hstore _ _
  · intro s h
    cases h with
    | word | test => rfl
    | handler | loop | context => exact hstore _ _

/-! ## What is missing -/

theorem Header.parts_not_small (h : Header) : h.parts.filterMap Part.small? = [] := by
  cases h with
  | context opening items =>
    rw [Header.parts, List.filterMap_flatMap, List.flatMap_eq_nil_iff]
    intro w _
    cases hw : w.asTarget <;> simp [WithItem.parts, hw, Part.small?]
  | _ => rfl

theorem FuncHead.parts_not_small (h : FuncHead) : h.parts.filterMap Part.small? = [] := by
  have hparam : ∀ x : Param, x.parts.filterMap Part.small? = [] := by
    intro x
    cases x with
    | star _ | slash _ => rfl
    | named star name hint value comma =>
      simp only [Param.parts, List.cons_append, List.filterMap_cons, Part.small?, List.filterMap_append, List.filterMap_map]
      simp [Function.comp_def, Part.small?]
  simp only [FuncHead.parts, List.filterMap_append, List.filterMap_cons, Part.small?, List.filterMap_map, List.filterMap_flatMap,
    hparam]
  cases h.returns <;> simp [Function.comp_def, Part.small?]

theorem ClassHead.parts_not_small (h : ClassHead) : h.parts.filterMap Part.small? = [] := by
  have harg : ∀ a : Arg, a.parts.filterMap Part.small? = [] := by
    intro a
    cases ha : a.kind.keyword? <;> simp [Arg.parts, ha, Part.small?]
  simp only [ClassHead.parts, List.filterMap_append, List.filterMap_cons, Part.small?, List.filterMap_map]
  cases h.args <;> simp [Function.comp_def, Part.small?, List.filterMap_flatMap, harg]

/-- The small statements are those among the parts. -/
theorem Node.gather_smalls (n : Node) : ∀ s, (n.gather placedSmalls s).map Prod.snd = n.parts.filterMap Part.small? := by
  have hitems : ∀ s is, (gatherItems placedSmalls s is).map Prod.snd =
      (is.map fun i => Part.small i.stmt).filterMap Part.small? := by
    intro s is
    induction is with
    | nil => rfl
    | cons i is ih => exact congrArg (i.stmt :: ·) ih
  induction n using Node.induct with
  | line l => exact fun s => hitems s l.items
  | inline o is t => exact fun s => hitems s is
  | compound cs ih | block o i xs f ih => exact ih
  | funcDef h b ih =>
    intro s
    have hparts : (Node.stmt (.funcDef h b)).parts.filterMap Part.small? = (Node.suite b).parts.filterMap Part.small? := by
      simp only [Node.parts, Stmt.parts, List.filterMap_append, h.parts_not_small, List.nil_append]
    exact (ih (h.frame :: s)).trans hparts.symm
  | classDef h b ih =>
    intro s
    have hparts : (Node.stmt (.classDef h b)).parts.filterMap Part.small? = (Node.suite b).parts.filterMap Part.small? := by
      simp only [Node.parts, Stmt.parts, List.filterMap_append, h.parts_not_small, List.nil_append]
    exact (ih (h.frame :: s)).trans hparts.symm
  | noClause | noStmt => exact fun _ => rfl
  | clause head b cs ihb ihc =>
    intro s
    have hparts : (Node.clauses (⟨head, b⟩ :: cs)).parts.filterMap Part.small? =
        (Node.suite b).parts.filterMap Part.small? ++ (Node.clauses cs).parts.filterMap Part.small? := by
      simp only [Node.parts, clauseParts, Clause.parts, List.filterMap_append, head.header.parts_not_small, List.nil_append]
    rw [hparts, ← ihb s, ← ihc s, ← List.map_append]
    rfl
  | next x xs ihx ihxs =>
    intro s
    have hparts : (Node.stmts (x :: xs)).parts.filterMap Part.small? =
        (Node.stmt x).parts.filterMap Part.small? ++ (Node.stmts xs).parts.filterMap Part.small? := List.filterMap_append
    rw [hparts, ← ihx s, ← ihxs s, ← List.map_append]
    rfl

/-- The bindings of a module are those of its small statements. -/
theorem Module.bindings_eq (m : Module) :
    m.bindings = (m.gather placedSmalls).flatMap fun y => (y.2.steps y.1).flatMap Step.bindings := by
  have hR : Piecewise fun (xs : List Step) (ys : List (Scope × Small)) =>
      xs.flatMap Step.bindings = ys.flatMap fun y => (y.2.steps y.1).flatMap Step.bindings :=
    ⟨rfl, fun h h' => by rw [List.flatMap_append, List.flatMap_append, h, h']⟩
  have hheads : HeadsRelated (fun (xs : List Step) (ys : List (Scope × Small)) =>
      xs.flatMap Step.bindings = ys.flatMap fun y => (y.2.steps y.1).flatMap Step.bindings) stepping placedSmalls := by
    refine ⟨fun s h => ?_, fun s h => storeStep_bindings _ _, fun s h => ?_⟩
    · show (h.steps s).flatMap Step.bindings = []
      rw [FuncHead.steps, List.flatMap_append, storeStep_bindings, storeStep_bindings, List.append_nil]
    · cases h with
      | word | test => rfl
      | handler | loop | context => exact storeStep_bindings _ _
  exact Node.gather_related hR hheads (fun s x => (List.append_nil _).symm) (.stmts m.body) []

theorem Module.smalls_eq (m : Module) : m.smalls = (m.gather placedSmalls).map Prod.snd :=
  (Node.gather_smalls (.stmts m.body) []).symm

/-- A binding belongs to an import statement. -/
theorem exists_of_mem_bindings {m : Module} {b : Binding} (h : b ∈ m.bindings) :
    ∃ x ∈ m.smalls, ∃ s, b ∈ (x.steps s).flatMap Step.bindings := by
  rw [m.bindings_eq] at h
  obtain ⟨y, hy, hb⟩ := List.mem_flatMap.1 h
  exact ⟨y.2, m.smalls_eq ▸ List.mem_map_of_mem hy, y.1, hb⟩

theorem lookup_put (source source' : String) (names : List String) (objects : List (String × List String)) :
    (Gathered.put source names objects).lookup source' = if source' = source then some names else objects.lookup source' := by
  have hcons : ∀ s ns (rest : List (String × List String)),
      List.lookup source' ((s, ns) :: rest) = if source' = s then some ns else rest.lookup source' := by
    intro s ns rest
    rw [List.lookup_cons]
    by_cases h : source' = s
    · rw [if_pos h, beq_iff_eq.2 h]
    · rw [if_neg h, beq_eq_false_iff_ne.2 h]
  induction objects with
  | nil => exact hcons _ _ _
  | cons o objects ih =>
    obtain ⟨s, ns⟩ := o
    rw [Gathered.put]
    by_cases hs : s = source
    · rw [if_pos hs, hcons, hcons, hs]
      split <;> rfl
    · rw [if_neg hs, hcons, hcons, ih]
      by_cases h : source' = s
      · rw [if_pos h, if_pos h, if_neg (h ▸ hs)]
      · rw [if_neg h, if_neg h]

namespace Gathered
variable {g : Gathered} {b : Binding} {x : Small}

theorem names_put (modules : List String) (source source' : String) (names : List String)
    (objects : List (String × List String)) :
    Gathered.names ⟨modules, put source names objects⟩ source' =
      if source' = source then names else Gathered.names ⟨modules, objects⟩ source' := by
  rw [Gathered.names, lookup_put]
  split <;> rfl

theorem modules_subset (g : Gathered) (x : Small) : g.modules ⊆ (g.add x).modules := by
  cases x with
  | importNames o as => exact List.subset_append_left _ _
  | importFrom f =>
    simp only [Gathered.add]
    split
    · exact List.Subset.refl _
    · exact List.Subset.refl _
    · split
      · exact List.Subset.refl _
      · split <;> exact List.Subset.refl _
  | _ => exact List.Subset.refl _

/-- The names of a module only grow, up to a star. -/
theorem names_subset (g : Gathered) (x : Small) (source : String) :
    g.names source ⊆ (g.add x).names source ∨ "*" ∈ (g.add x).names source := by
  cases x with
  | importFrom f =>
    cases habs : f.absolute? with
    | none => simp only [Gathered.add, habs, List.Subset.refl, true_or]
    | some source' =>
      cases himp : f.imported with
      | star =>
        simp only [Gathered.add, habs, himp, names_put]
        split
        · exact .inr List.mem_cons_self
        · exact .inl (List.Subset.refl _)
      | names parens as =>
        simp only [Gathered.add, habs, himp]
        split
        · exact .inl (List.Subset.refl _)
        · split
          · rw [names_put]
            split
            · exact .inr List.mem_cons_self
            · exact .inl (List.Subset.refl _)
          · rw [names_put]
            split
            · next hs => exact .inl (hs ▸ List.subset_append_left _ _)
            · exact .inl (List.Subset.refl _)
  | _ => exact .inl (List.Subset.refl _)

/-- Whether what is gathered brings a binding that is not renamed. -/
def Covers (g : Gathered) (b : Binding) : Prop :=
  match b.origin with
  | none => b.imported.path ∈ g.modules
  | some source => b.imported.path ∈ g.names source ∨ "*" ∈ g.names source

theorem Covers.add (h : g.Covers b) (x : Small) : (g.add x).Covers b := by
  unfold Covers at h ⊢
  cases ho : b.origin with
  | none =>
    rw [ho] at h
    exact g.modules_subset x h
  | some source =>
    rw [ho] at h
    rcases g.names_subset x source with hs | hs
    · exact h.imp (hs ·) (hs ·)
    · exact .inr hs

/-- An import statement brings its own names. -/
theorem covers_own (g : Gathered) (ho : b.origin = none ∨ b.origin = some packageName) (ha : b.imported.asName = none) {s : Scope}
    (h : b ∈ (x.steps s).flatMap Step.bindings) : (g.add x).Covers b := by
  cases x with
  | importNames o as =>
    rw [Small.steps, importStep_bindings] at h
    obtain ⟨a, ha', rfl⟩ := mem_bindAll.1 h
    refine List.mem_append_right _ (List.mem_map.2 ⟨a, List.mem_filter.2 ⟨ha', ?_⟩, rfl⟩)
    exact Option.isNone_iff_eq_none.2 ha
  | importFrom f =>
    rw [Small.steps, importStep_bindings] at h
    obtain ⟨a, ha', rfl⟩ := mem_bindAll.1 h
    have horigin : f.origin = packageName := ho.elim (fun h => nomatch h) Option.some.inj
    show a.path ∈ (g.add (.importFrom f)).names f.origin ∨ "*" ∈ (g.add (.importFrom f)).names f.origin
    cases habs : f.absolute? with
    | none => exact absurd horigin (origin_ne_of_relative habs).2
    | some source =>
      rw [FromImport.origin_of_absolute habs]
      cases himp : f.imported with
      | star =>
        rw [himp] at ha'
        cases ha'
      | names parens as =>
        rw [himp] at ha'
        have hnew : a.path ∈ (as.filter fun a => a.asName.isNone).map Alias.path :=
          List.mem_map.2 ⟨a, List.mem_filter.2 ⟨ha', Option.isNone_iff_eq_none.2 ha⟩, rfl⟩
        simp only [Gathered.add, habs, himp]
        split
        · next he => simp [List.isEmpty_iff.1 he] at hnew
        · split
          · rw [names_put, if_pos rfl]
            exact .inr List.mem_cons_self
          · rw [names_put, if_pos rfl]
            exact .inl (List.mem_append_right _ hnew)
  | assign targets value => simp [Small.steps, storeStep_bindings] at h
  | annAssign target hint value => simp [Small.steps, storeStep_bindings] at h
  | augAssign target sign value => simp [Small.steps, storeStep_bindings] at h
  | declare reach o names => simp [Small.steps, Step.bindings] at h
  | expr e => cases h
  | plain kind ps => cases h

theorem Covers.foldl (h : g.Covers b) (xs : List Small) : (xs.foldl Gathered.add g).Covers b := by
  induction xs generalizing g with
  | nil => exact h
  | cons x xs ih => exact ih (h.add x)

end Gathered

/-- The imports of a module bring its bindings. -/
theorem Module.imports_cover {m : Module} {b : Binding} (h : b ∈ m.bindings) (ho : b.origin = none ∨ b.origin = some packageName)
    (ha : b.imported.asName = none) : m.imports.Covers b := by
  obtain ⟨x, hx, s, hb⟩ := exists_of_mem_bindings h
  obtain ⟨front, back, hsplit⟩ := List.append_of_mem hx
  rw [Module.imports, hsplit, List.foldl_append, List.foldl_cons]
  exact (Gathered.covers_own _ ho ha hb).foldl back

theorem Alias.path_ofName (name : String) : (Alias.ofName name).path = name := by
  simp [Alias.ofName, Alias.path, DottedName.path, DottedName.names, joinWith]

theorem Alias.imported_ofName (name : String) : (Alias.ofName name).imported = ⟨[name], none⟩ := by
  simp [Alias.imported, Alias.ofName, Alias.renamed?, DottedName.beginnings, DottedName.names, List.range_succ, joinWith]

theorem Alias.bound_ofName (name : String) : (Alias.ofName name).bound = [name] := by
  simp [Alias.bound, Alias.ofName, Alias.renamed?, DottedName.beginnings, DottedName.names, List.range_succ, joinWith]

/-- What is added was not there. -/
theorem IsAdded.not_mem {m : Module} {needs : List Need} {b : Binding}
    (h : IsAdded (m.imports.missing needs).package (m.imports.missing needs).objects b) : b ∉ m.bindings := by
  intro hb
  rcases h with ⟨hpackage, rfl⟩ | ⟨name, hname, ho, hi⟩
  · have hcover : (Alias.ofName packageName).path ∈ m.imports.modules := m.imports_cover hb (.inl rfl) rfl
    rw [Alias.path_ofName] at hcover
    simp [Gathered.missing, hcover] at hpackage
  · have hcover := m.imports_cover hb (.inr ho) (by rw [hi]; rfl)
    simp only [Gathered.Covers, ho, hi, Alias.path_ofName] at hcover
    simp only [Gathered.missing] at hname
    split at hname
    · cases hname
    · next hstar =>
      rw [List.mem_filter] at hname
      simp_all

end AttrsUpgrade
