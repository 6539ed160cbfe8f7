import AttrsUpgrade.Proofs.Upgraded
import Mathlib.Data.List.Flatten
import Mathlib.Data.List.Nodup
/-!
# Which names are fields

A class decorator makes fields of names of the class body: of those bound to calls that make a field, or of those that are
annotated. Which of the two the old decorators and `define` go by is `oldCollects` and `newCollects?`; what counts as a call
that makes a field is a parameter (`Makers`).

An upgraded class may have other fields than before: annotations that were none now are, further targets of an assignment
are lost, and so are fields that are only annotated under `auto_attribs=False`. `fields_kept_iff` tells from the class as it
was just when its fields stay the same.
-/

namespace AttrsUpgrade

/-! ## Names of a statement -/

/-- The calls that make fields: those that the pass replaces, those of the new `field`, and maybe others. -/
structure Makers (r : Resolver) (makes : Call → Bool) : Prop where
  old : ∀ c, r.isField c = true → makes c = true
  new : ∀ args, makes ⟨fieldFunc r.fieldSource, args⟩ = true

namespace Small

/-- The names that a statement assigns to. -/
def targetNames : Small → List String
  | .assign ts _ => ts.filterMap fun t => t.target.name?
  | .annAssign t _ _ => t.name?.toList
  | _ => []

/-- The name that a statement annotates; one in parentheses does not count. -/
def annotatedNames : Small → List String
  | .annAssign (.name n) _ _ => [n.text]
  | _ => []

/-- The names that a statement binds to a call that makes a field. -/
def boundNames (makes : Call → Bool) : Small → List String
  | .assign ts v => if v.call?.any makes then ts.filterMap fun t => t.target.name? else []
  | .annAssign t _ (some a) => if a.value.call?.any makes then t.name?.toList else []
  | _ => []

end Small

/-! ## Names of what takes its place -/

section
variable (r : Resolver) (makes : Call → Bool)

/-- The target and the call of a statement that is replaced. -/
def Small.replaced? (k : Seen) : Small → Option (Expr × Call)
  | .annAssign t _ (some a) => if k.untyped then none else (r.fieldCall? a.value).map (t, ·)
  | .assign (t :: _) v => if k.untyped then none else (r.fieldCall? v).map (t.target, ·)
  | _ => none

/-- Whether the new value of a field is still a call that makes a field: it is if the field needs more than a default. -/
def FieldArgs.staysField (f : FieldArgs) (force : Bool) : Bool :=
  force || !f.others.isEmpty ||
    match f.factoryFunc, f.factoryValue, f.simpleDefault with
    | none, _, some d => d.call?.any makes
    | some _, some v, _ => makes ⟨.name (newName "Factory"), [.ofValue v]⟩
    | _, _, _ => false

/-- The name that is annotated after the pass: of a statement that is replaced, the first target. -/
def annotatedAfter (y : Seen × Item) : List String :=
  match y.2.stmt.replaced? r y.1 with
  | some (.name n, _) => [n.text]
  | some _ => []
  | none => y.2.stmt.annotatedNames

/-- The names bound to a call that makes a field after the pass: of a statement that is replaced, at most the first target. -/
def boundAfter (y : Seen × Item) : List String :=
  match y.2.stmt.replaced? r y.1 with
  | some (t, c) => if (FieldArgs.parse c.args).staysField makes (y.1.inside.forces t) then t.name?.toList else []
  | none => y.2.stmt.boundNames makes

end

/-! ## The new value -/

section
variable {r : Resolver} {makes : Call → Bool}

theorem FieldArgs.value?_makes (hm : Makers r makes) {f : FieldArgs} {force : Bool} {v : Option Expr}
    (h : f.value? force r.fieldSource = .ok v) : v.any (fun e => e.call?.any makes) = f.staysField makes force := by
  unfold FieldArgs.staysField
  rcases FieldArgs.value?_cases h with ⟨hneeds, rfl⟩ | ⟨hneeds, hv⟩
  · unfold FieldArgs.needsField at hneeds
    simpa [hneeds, Expr.call?, Expr.bare] using hm.new f.fieldArgs
  · unfold FieldArgs.needsField at hneeds
    rw [hneeds, Bool.false_or]
    rcases hv with ⟨hfunc, rfl⟩ | ⟨hfunc, rfl⟩
    · rw [hfunc]
      cases f.simpleDefault <;> rfl
    · obtain ⟨func, hfunc⟩ := Option.ne_none_iff_exists'.1 hfunc
      rw [hfunc]
      cases f.factoryValue <;> rfl

/-! ## The new statement -/

theorem Expr.call?_mem_calls {e : Expr} {c : Call} (h : e.call? = some c) : c ∈ e.calls := by
  fun_induction Expr.bare e with
  | case1 o e cl ih => exact ih h
  | case2 e he =>
    cases e with
    | call f o args cl =>
      cases h
      exact List.mem_cons_self
    | paren o e cl => exact absurd rfl (he o e cl)
    | _ => cases h

/-- An assignment that is replaced says the type of the field: its own call would have raised the flag. -/
theorem typeArg_of_replaced {k : Seen} {ts : List Target} {v : Expr} {c : Call} (hc : r.fieldCall? v = some c)
    (hk : (k.after r (Small.assign ts v).events).untyped = false) : ∃ e, typeArg? c.args = some e := by
  obtain ⟨hv, hf⟩ := Option.filter_eq_some_iff.1 hc
  have hmem : c ∈ Part.calls (.small (.assign ts v)) := by
    simp only [Part.calls, Part.exprs, Small.exprs, List.flatMap_append, List.mem_append]
    exact .inr (by simpa using Expr.call?_mem_calls hv)
  have hk : flagAfter r k.untyped ((Part.calls (.small (.assign ts v))).map (.call false)) = false := hk
  rw [flagAfter_calls (calls_enter_nothing _ _), Bool.or_eq_false_iff, any_raises_calls, List.any_eq_false] at hk
  have ht : c.args.any (fun a => a.keyword? = some "type") = true := by
    simpa [Resolver.isUntyped, hf] using hk.2 c hmem
  obtain ⟨a, ha, hat⟩ := List.any_eq_true.1 ht
  have hne : valuesOf "type" c.args ≠ [] := by
    refine List.ne_nil_of_mem (a := a.value) (List.mem_filterMap.2 ⟨a, ha, ?_⟩)
    rw [if_pos (of_decide_eq_true hat)]
  exact ⟨_, List.getLast?_eq_some_getLast hne⟩

/-- A statement in a class stays, or a field with the same target and an annotation takes its place. -/
theorem upgradeSmall?_cases (k : Seen) (x : Small) :
    let k' := k.after r x.events
    x.replaced? r k' = none ∧ upgradeSmall? r k'.inside x = .ok none ∨
      ∃ t c hint, x.replaced? r k' = some (t, c) ∧ upgradeSmall? r k'.inside x =
        ((FieldArgs.parse c.args).build t (some hint) (k'.inside.forces t) r.fieldSource).map some := by
  intro k'
  cases x with
  | annAssign t hint v =>
    cases v with
    | none => exact .inl ⟨rfl, rfl⟩
    | some a =>
      cases hu : k'.untyped with
      | true => exact .inl ⟨by simp [Small.replaced?, hu], by simp [upgradeSmall?, Seen.inside, hu]⟩
      | false =>
        cases hc : r.fieldCall? a.value with
        | none => exact .inl ⟨by simp [Small.replaced?, hc], by simp [upgradeSmall?, hc]⟩
        | some c =>
          exact .inr ⟨t, c, hint, by simp [Small.replaced?, hu, hc], by simp [upgradeSmall?, Seen.inside, hu, hc]⟩
  | assign ts v =>
    cases ts with
    | nil => exact .inl ⟨rfl, rfl⟩
    | cons t ts =>
      cases hu : k'.untyped with
      | true => exact .inl ⟨by simp [Small.replaced?, hu], by simp [upgradeSmall?, Seen.inside, hu]⟩
      | false =>
        cases hc : r.fieldCall? v with
        | none => exact .inl ⟨by simp [Small.replaced?, hc], by simp [upgradeSmall?, hc]⟩
        | some c =>
          obtain ⟨e, he⟩ := typeArg_of_replaced hc hu
          refine .inr ⟨t.target, c, .ofExpr e, by simp [Small.replaced?, hu, hc], ?_⟩
          simp [upgradeSmall?, Seen.inside, hu, hc, he, FieldArgs.parse_withoutType]
  | _ => exact .inl ⟨rfl, rfl⟩

theorem build_names (hm : Makers r makes) {f : FieldArgs} {t : Expr} {hint : Hint} {force : Bool} {x : Small}
    (h : f.build t (some hint) force r.fieldSource = .ok x) :
    x.annotatedNames = (Small.annAssign t hint none).annotatedNames ∧
      x.boundNames makes = if f.staysField makes force then t.name?.toList else [] := by
  obtain ⟨v, hv, rfl⟩ := FieldArgs.build_eq_ok.1 h
  rw [← FieldArgs.value?_makes hm hv]
  cases v with
  | none => cases t <;> exact ⟨rfl, rfl⟩
  | some e => cases t <;> exact ⟨rfl, rfl⟩

/-- What takes the place of a statement has the names that it is said to have. -/
theorem Replaces.names (hm : Makers r makes) {k : Seen} {i i' : Item} (h : Replaces r (k.after r i.stmt.events, i) i') :
    i'.stmt.annotatedNames = annotatedAfter r (k.after r i.stmt.events, i) ∧
      i'.stmt.boundNames makes = boundAfter r makes (k.after r i.stmt.events, i) := by
  rw [annotatedAfter, boundAfter]
  rcases upgradeSmall?_cases (r := r) k i.stmt with ⟨hn, hu⟩ | ⟨t, c, hint, hr, hu⟩
  · rw [hn]
    rcases h with ⟨-, rfl⟩ | ⟨x, hx, -⟩
    · exact ⟨rfl, rfl⟩
    · rw [hu] at hx
      cases hx
  · rw [hr]
    rw [Replaces, hu] at h
    cases hb : (FieldArgs.parse c.args).build t (some hint) ((k.after r i.stmt.events).inside.forces t) r.fieldSource with
    | error e =>
      rw [hb] at h
      rcases h with ⟨h, -⟩ | ⟨x, hx, -⟩ <;> contradiction
    | ok x =>
      rw [hb] at h
      rcases h with ⟨h, -⟩ | ⟨x', hx, rfl⟩
      · cases h
      · cases hx
        obtain ⟨ha, hb⟩ := build_names hm hb
        refine ⟨?_, hb⟩
        rw [ha]
        cases t <;> rfl

end

/-! ## Collecting names -/

/-- The names of its body that a class decorator makes fields of. -/
inductive Collects where
  /-- Those bound to calls that make a field. -/
  | bound
  | annotated
  /-- The annotated ones, unless there is a bound one that is not annotated: then the bound ones. -/
  | annotatedOrBound
deriving DecidableEq, Repr

section
variable {α : Type}

/-- The names that are collected from each of the statements `ys`. -/
def Collects.choose (how : Collects) (ys : List α) (bound annotated : α → List String) : α → List String :=
  match how with
  | .bound => bound
  | .annotated => annotated
  | .annotatedOrBound => if ys.flatMap bound ⊆ ys.flatMap annotated then annotated else bound

/-- The names that are collected from statements, each at its first place. -/
def Collects.collect (how : Collects) (ys : List α) (bound annotated : α → List String) : List String :=
  (ys.flatMap (how.choose ys bound annotated)).eraseDups

theorem eraseDups_of_nodup {xs : List String} (h : xs.Nodup) : xs.eraseDups = xs := by
  induction xs with
  | nil => rfl
  | cons x xs ih =>
    obtain ⟨hx, hxs⟩ := List.nodup_cons.1 h
    have hf : xs.filter (fun y => !y == x) = xs := by
      refine List.filter_eq_self.2 fun y hy => ?_
      have hne : y ≠ x := fun e => hx (e ▸ hy)
      simpa using hne
    rw [List.eraseDups_cons, hf, ih hxs]

/-- Lists drawn from lists without a name in common are told apart piece by piece. -/
theorem flatMap_eq_iff {ys : List α} {f g n : α → List String} (hf : ∀ y, (f y).Sublist (n y))
    (hg : ∀ y, (g y).Sublist (n y)) (hn : (ys.flatMap n).Nodup) :
    ys.flatMap f = ys.flatMap g ↔ ∀ y ∈ ys, f y = g y := by
  induction ys with
  | nil => simp
  | cons y ys ih =>
    obtain ⟨-, hrest, hdisj⟩ := List.nodup_append.1 (List.flatMap_cons ▸ hn)
    constructor
    · intro h
      -- the names of `y` can be picked out on both sides
      have hpick : ∀ e : α → List String, (∀ z, (e z).Sublist (n z)) →
          ((y :: ys).flatMap e).filter (fun x => decide (x ∈ n y)) = e y := by
        intro e he
        have h₁ : (e y).filter (fun x => decide (x ∈ n y)) = e y :=
          List.filter_eq_self.2 fun x hx => decide_eq_true ((he y).subset hx)
        have h₂ : (ys.flatMap e).filter (fun x => decide (x ∈ n y)) = [] := by
          refine List.filter_eq_nil_iff.2 fun x hx => ?_
          obtain ⟨z, hz, hx⟩ := List.mem_flatMap.1 hx
          have hx' : x ∈ ys.flatMap n := List.mem_flatMap.2 ⟨z, hz, (he z).subset hx⟩
          simpa using fun hxy => hdisj x hxy x hx' rfl
        rw [List.flatMap_cons, List.filter_append, h₁, h₂, List.append_nil]
      have hy : f y = g y := by rw [← hpick f hf, h, hpick g hg]
      rw [List.flatMap_cons, List.flatMap_cons, hy] at h
      intro z hz
      rcases List.mem_cons.1 hz with rfl | hz
      · exact hy
      · exact (ih hrest).1 (List.append_cancel_left h) z hz
    · intro h
      rw [List.flatMap_cons, List.flatMap_cons, h y List.mem_cons_self,
        (ih hrest).2 fun z hz => h z (List.mem_cons_of_mem _ hz)]

/-- The same names are collected if they are chosen of each statement, and if no name is there twice, only then. -/
theorem collect_eq_iff (how how' : Collects) (ys : List α) {b a b' a' n : α → List String}
    (hb : ∀ y, (b y).Sublist (n y)) (ha : ∀ y, (a y).Sublist (n y)) (hb' : ∀ y, (b' y).Sublist (n y))
    (ha' : ∀ y, (a' y).Sublist (n y)) :
    ((∀ y ∈ ys, how'.choose ys b' a' y = how.choose ys b a y) → how'.collect ys b' a' = how.collect ys b a) ∧
    ((ys.flatMap n).Nodup → how'.collect ys b' a' = how.collect ys b a →
      ∀ y ∈ ys, how'.choose ys b' a' y = how.choose ys b a y) := by
  have hchoose : ∀ (h : Collects) {b a : α → List String}, (∀ y, (b y).Sublist (n y)) → (∀ y, (a y).Sublist (n y)) →
      ∀ y, (h.choose ys b a y).Sublist (n y) := by
    intro h b a hb ha y
    unfold Collects.choose
    split
    · exact hb y
    · exact ha y
    · split
      · exact ha y
      · exact hb y
  refine ⟨fun h => congrArg _ (List.flatMap_congr h), fun hn h => ?_⟩
  have hs := hchoose how hb ha
  have hs' := hchoose how' hb' ha'
  unfold Collects.collect at h
  rw [eraseDups_of_nodup (hn.sublist (.flatMap_right _ fun y _ => hs y)),
    eraseDups_of_nodup (hn.sublist (.flatMap_right _ fun y _ => hs' y))] at h
  exact (flatMap_eq_iff hs' hs hn).1 h

theorem flatMap_of_forall₂ {β : Type} {ys : List α} {zs : List β} {f : α → List String} {f' : β → List String}
    (h : List.Forall₂ (fun y z => f' z = f y) ys zs) : zs.flatMap f' = ys.flatMap f := by
  induction h with
  | nil => rfl
  | cons hyz _ ih => rw [List.flatMap_cons, List.flatMap_cons, hyz, ih]

theorem collect_of_forall₂ {β : Type} {ys : List α} {zs : List β} {b a : α → List String} {b' a' : β → List String}
    (h : List.Forall₂ (fun y z => b' z = b y ∧ a' z = a y) ys zs) (how : Collects) :
    how.collect zs b' a' = how.collect ys b a := by
  have hb := flatMap_of_forall₂ (h.imp fun _ _ e => e.1)
  have ha := flatMap_of_forall₂ (h.imp fun _ _ e => e.2)
  unfold Collects.collect Collects.choose
  cases how with
  | bound => exact congrArg _ hb
  | annotated => exact congrArg _ ha
  | annotatedOrBound =>
    simp only [hb, ha]
    split
    · exact congrArg _ ha
    · exact congrArg _ hb

end

/-! ## Fields of a class -/

/-- The arguments of a decorator. -/
def Decorator.args (d : Decorator) : List Arg := (d.expr.call?.map Call.args).getD []

/-- What a decorator of the old style collects. -/
def oldCollects (args : List Arg) : Collects := if args.any Arg.isAutoAttribs then .annotated else .bound

/-- What `define` collects; nothing is said of `auto_attribs` values that are neither `True` nor `False`. -/
def newCollects? (args : List Arg) : Option Collects :=
  match valuesOf "auto_attribs" args with
  | [] => some .annotatedOrBound
  | [e] => if e.name? = some "False" then some .bound else none
  | _ => none

namespace ClassDef
variable (r : Resolver) (makes : Call → Bool) (how how' : Collects) (c : ClassDef)

/-- The fields of the class. -/
def fieldNames : List String :=
  how.collect (c.assignments false) (fun i => i.stmt.boundNames makes) (fun i => i.stmt.annotatedNames)

/-- What is collected of each assignment after the pass is what was collected of it before. -/
def KeepsFields : Prop :=
  ∀ y ∈ c.declared r, how'.choose (c.declared r) (boundAfter r makes) (annotatedAfter r) y =
    how.choose (c.declared r) (fun y => y.2.stmt.boundNames makes) (fun y => y.2.stmt.annotatedNames) y

/-- No name is assigned to twice. -/
def DistinctNames : Prop := ((c.assignments false).flatMap fun i => i.stmt.targetNames).Nodup

instance : Decidable (c.KeepsFields r makes how how') := by
  unfold KeepsFields
  infer_instance

instance : Decidable c.DistinctNames := by
  unfold DistinctNames
  infer_instance

end ClassDef

section
variable {r : Resolver} {makes : Call → Bool} {c c' : ClassDef}

/-! ## Names are among the targets -/

theorem name?_toList_sublist (t : Target) (ts : List Target) :
    t.target.name?.toList.Sublist ((t :: ts).filterMap fun t => t.target.name?) := by
  rw [List.filterMap_cons]
  cases t.target.name? with
  | none => exact List.nil_sublist _
  | some n => exact List.singleton_sublist.2 List.mem_cons_self

theorem Small.annotatedNames_sublist (x : Small) : x.annotatedNames.Sublist x.targetNames := by
  unfold Small.annotatedNames
  split
  · exact .refl _
  · exact List.nil_sublist _

theorem Small.boundNames_sublist (makes : Call → Bool) (x : Small) : (x.boundNames makes).Sublist x.targetNames := by
  unfold Small.boundNames
  split
  · split
    · exact .refl _
    · exact List.nil_sublist _
  · split
    · exact .refl _
    · exact List.nil_sublist _
  · exact List.nil_sublist _

/-- The target of a statement that is replaced is its first one. -/
theorem Small.replaced?_sublist {x : Small} {k : Seen} {t : Expr} {call : Call} (h : x.replaced? r k = some (t, call)) :
    t.name?.toList.Sublist x.targetNames := by
  unfold Small.replaced? at h
  split at h
  · split at h
    · cases h
    · obtain ⟨_, -, he⟩ := Option.map_eq_some_iff.1 h
      cases he
      exact .refl _
  · split at h
    · cases h
    · obtain ⟨_, -, he⟩ := Option.map_eq_some_iff.1 h
      cases he
      exact name?_toList_sublist _ _
  · cases h

theorem annotatedAfter_sublist (r : Resolver) (y : Seen × Item) : (annotatedAfter r y).Sublist y.2.stmt.targetNames := by
  unfold annotatedAfter
  split
  · next n call h => exact Small.replaced?_sublist h
  · exact List.nil_sublist _
  · exact y.2.stmt.annotatedNames_sublist

theorem boundAfter_sublist (r : Resolver) (makes : Call → Bool) (y : Seen × Item) : (boundAfter r makes y).Sublist y.2.stmt.targetNames := by
  unfold boundAfter
  split
  · next t call h =>
    split
    · exact Small.replaced?_sublist h
    · exact List.nil_sublist _
  · exact y.2.stmt.boundNames_sublist makes

/-! ## Fields before and after -/

theorem ClassDef.declared_items (c : ClassDef) : (c.declared r).map Prod.snd = c.assignments false :=
  Node.declared_items r (.suite c.body) _

theorem ClassDef.fieldNames_before (how : Collects) : c.fieldNames makes how =
    how.collect (c.declared r) (fun y => y.2.stmt.boundNames makes) (fun y => y.2.stmt.annotatedNames) := by
  rw [ClassDef.fieldNames, ← c.declared_items (r := r)]
  exact collect_of_forall₂ (List.forall₂_map_right_iff.2 (List.forall₂_same.2 fun _ _ => ⟨rfl, rfl⟩)) how

theorem ClassDef.UpgradedTo.fieldNames_after (h : c.UpgradedTo r c'.view) (hm : Makers r makes) (how : Collects) :
    c'.fieldNames makes how = how.collect (c.declared r) (boundAfter r makes) (annotatedAfter r) := by
  refine collect_of_forall₂ ?_ how
  refine ((List.forall₂_and_left _ _).2 ⟨Node.declared_after r (.suite c.body) _, h.declarations⟩).imp ?_
  rintro ⟨k, i⟩ i' ⟨⟨k₀, hk⟩, hr⟩
  simp only at hk
  subst hk
  obtain ⟨ha, hb⟩ := hr.names hm
  exact ⟨hb, ha⟩

/-- An upgraded class has the fields it had if it keeps them assignment by assignment, and if no name is assigned to twice,
only then. -/
theorem ClassDef.UpgradedTo.fieldNames_eq_iff (h : c.UpgradedTo r c'.view) (hm : Makers r makes) (how how' : Collects) :
    (c.KeepsFields r makes how how' → c'.fieldNames makes how' = c.fieldNames makes how) ∧
      (c.DistinctNames → (c'.fieldNames makes how' = c.fieldNames makes how ↔ c.KeepsFields r makes how how')) := by
  rw [h.fieldNames_after hm, c.fieldNames_before (r := r)]
  obtain ⟨hif, honly⟩ := collect_eq_iff how how' (c.declared r) (fun y => y.2.stmt.boundNames_sublist makes)
    (fun y => y.2.stmt.annotatedNames_sublist) (boundAfter_sublist r makes) (annotatedAfter_sublist r)
  refine ⟨hif, fun hn => ⟨honly ?_, hif⟩⟩
  rw [ClassDef.DistinctNames, ← c.declared_items (r := r), List.flatMap_map] at hn
  exact hn

end

/-! ## Main theorem -/

/-- In a run that succeeds, where a decorator of a class is replaced by `define`, the fields of the class afterwards can be
told from the class as it was. They are the same if each assignment keeps the names that are collected of it, and if no name
is assigned to twice, only then. -/
theorem fields_kept_iff {text : String} {out : Module} (h : (Session.fresh.transform text).result = .ok out) :
    ∃ m table, Module.parse? text = some m ∧ m.scan = .ok table ∧
      let r := table.resolver m
      ∀ makes, Makers r makes → List.Forall₂ (fun c c' => c'.view = c.view ∨ c.UpgradedTo r c'.view ∧
        ∀ y d, (y, d) ∈ (c.seenDecorators r).zip c'.head.decorators → isReplaced r y = true → y.2.upgrade = .ok d ∧
          ∀ how, newCollects? d.args = some how →
            c'.fieldNames makes how = how.collect (c.declared r) (boundAfter r makes) (annotatedAfter r) ∧
            (c.KeepsFields r makes (oldCollects y.2.args) how →
              c'.fieldNames makes how = c.fieldNames makes (oldCollects y.2.args)) ∧
            (c.DistinctNames → (c'.fieldNames makes how = c.fieldNames makes (oldCollects y.2.args) ↔
              c.KeepsFields r makes (oldCollects y.2.args) how))) m.classes out.classes := by
  obtain ⟨m, table, -, -, -, hp, hs, -, -, hclasses⟩ := transform_classes h rfl
  refine ⟨m, table, hp, hs, fun makes hm => hclasses.imp fun c c' hc => hc.imp_right fun hu => ⟨hu, ?_⟩⟩
  intro y d hyd hr
  have hd := List.forall₂_zip hu.decorators hyd
  rw [DecoratorReplaces, if_pos hr] at hd
  exact ⟨hd, fun how _ => ⟨hu.fieldNames_after hm how, hu.fieldNames_eq_iff hm _ how⟩⟩

/-- A call makes a field if it is replaced by the pass or spelled like the new one. -/
def spelledMakers (r : Resolver) (c : Call) : Bool :=
  r.isField c || c.func.fullName? = some "field" || c.func.fullName? = some "attrs.field"

theorem makers_spelled (r : Resolver) : Makers r (spelledMakers r) where
  old c h := by simp [spelledMakers, h]
  new args := by
    unfold spelledMakers fieldFunc
    split <;> simp [Expr.fullName?, newName]

/-- A field with its type as an argument, and one with an annotation. -/
def keptText : String := "import attr\n@attr.s\nclass A:\n x = attr.ib(type=int)\n y: int = attr.ib(default=1)\n"

theorem fields_kept_in_kept_text : ∃ out m table c c', (Session.fresh.transform keptText).result = .ok out ∧
    Module.parse? keptText = some m ∧ m.scan = .ok table ∧ m.classes = [c] ∧ out.classes = [c'] ∧
    c.KeepsFields (table.resolver m) (spelledMakers (table.resolver m)) .bound .annotatedOrBound ∧ c.DistinctNames ∧
    c'.fieldNames (spelledMakers (table.resolver m)) .annotatedOrBound =
      c.fieldNames (spelledMakers (table.resolver m)) .bound := by
  have heval : observe keptText (fun m r out => decide (
      m.classes.map (fun c => decide (c.KeepsFields r (spelledMakers r) .bound .annotatedOrBound ∧ c.DistinctNames)) = [true] ∧
      m.classes.map (fun c => (c.seenDecorators r).map fun y => (isReplaced r y, oldCollects y.2.args)) =
        [[(true, .bound)]] ∧
      out.classes.map (fun c => c.head.decorators.map fun d => newCollects? d.args) = [[some .annotatedOrBound]] ∧
      m.classes.map ClassDef.decoratorNames = [["attr.s"]] ∧ out.classes.map ClassDef.decoratorNames = [["define"]])) =
      some true := by
    decide +kernel
  obtain ⟨out, m, table, hr, hp, hs, heval⟩ := exists_of_observe heval
  obtain ⟨hkeeps, hseen, hnew, hold, hdefine⟩ := of_decide_eq_true heval
  obtain ⟨c, hc, -⟩ := List.map_eq_singleton_iff.1 hkeeps
  obtain ⟨c', hc', -⟩ := List.map_eq_singleton_iff.1 hnew
  simp only [hc, hc', List.map_cons, List.map_nil, List.cons.injEq, and_true, decide_eq_true_eq] at hkeeps hseen hnew hold hdefine
  obtain ⟨y, hy, hy'⟩ := List.map_eq_singleton_iff.1 hseen
  obtain ⟨d, hd, hd'⟩ := List.map_eq_singleton_iff.1 hnew
  obtain ⟨hrep, hcol⟩ := Prod.mk.inj hy'
  obtain ⟨m', table', hp', hs', hall⟩ := fields_kept_iff hr
  cases hp.symm.trans hp'
  cases hs.symm.trans hs'
  have hpair := hall _ (makers_spelled _)
  rw [hc, hc'] at hpair
  rcases (List.forall₂_cons.1 hpair).1 with hview | ⟨-, hrule⟩
  · have hsame : c'.decoratorNames = c.decoratorNames :=
      congrArg (fun v => v.decorators.filterMap fun d => d.expr.fullName?) hview
    rw [hold, hdefine] at hsame
    exact absurd hsame (by decide)
  · obtain ⟨-, hfields⟩ := hrule y d (by simp [hy, hd]) hrep
    have hkept := (hfields _ hd').2.1
    rw [hcol] at hkept
    exact ⟨out, m, table, c, c', hr, hp, hs, hc, hc', hkeeps.1, hkeeps.2, hkept hkeeps.1⟩

/-- For each decorator that is replaced, the fields of the class before and after. -/
def replacedFields (r : Resolver) (c c' : ClassDef) : List (List String × List String) :=
  ((c.seenDecorators r).zip c'.head.decorators).filterMap fun p =>
    if isReplaced r p.1 then
      (newCollects? p.2.args).map fun how =>
        (c.fieldNames (spelledMakers r) (oldCollects p.1.2.args), c'.fieldNames (spelledMakers r) how)
    else none

/-- A second target, an annotation that is no field, and a field that is only annotated in the end. -/
def changedText : String :=
  "import attr\n@attr.s\nclass A:\n a = b = attr.ib(type=int)\n@attr.s\nclass B:\n x: int\n y = attr.ib(type=int)\n" ++
  "@attr.s(auto_attribs=False)\nclass C:\n a = attr.ib(type=int)\n"

/-- None of these classes keeps its fields. -/
theorem changed_text_changes_fields : ∃ out m table, (Session.fresh.transform changedText).result = .ok out ∧
    Module.parse? changedText = some m ∧ m.scan = .ok table ∧
    (m.classes.zip out.classes).map (fun p => replacedFields (table.resolver m) p.1 p.2) =
      [[(["a", "b"], ["a"])], [(["y"], ["x", "y"])], [(["a"], [])]] := by
  have heval : observe changedText (fun m r out => (m.classes.zip out.classes).map fun p => replacedFields r p.1 p.2) =
      some [[(["a", "b"], ["a"])], [(["y"], ["x", "y"])], [(["a"], [])]] := by
    decide +kernel
  exact exists_of_observe heval

end AttrsUpgrade
