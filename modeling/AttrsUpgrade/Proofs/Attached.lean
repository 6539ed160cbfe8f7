import AttrsUpgrade.Proofs.Enclosing
import AttrsUpgrade.Proofs.FieldCall
/-!
# Methods attached to fields

A function decorated with `@x.validator` or `@x.default` needs `x` to be a field object when the class body is executed, so a
field that has such a method is declared by a call of `field`. The pass gathers the names of these fields on entering a class
and does not bring them back on leaving it. So what counts for an assignment is the class entered last before it, which may be
one inside of the class (`ClassDef.recent`), and `assignments_kept_or_redeclared` tells when this goes well.
-/

namespace AttrsUpgrade

/-! ## The names of fields with methods -/

/-- The `x` of a decorator `@x.validator` or `@x.default`. -/
def Decorator.attachedTo? (d : Decorator) : Option String :=
  match d.expr with
  | .attribute (.name n) _ a => if a.text = "validator" ∨ a.text = "default" then some n.text else none
  | _ => none

mutual

/-- The names that functions are attached to, functions and classes further inside apart. -/
def Stmt.attached : Stmt → List String
  | .line _ => []
  | .compound cs => clauseAttached cs
  | .funcDef h _ => h.decorators.filterMap Decorator.attachedTo?
  | .classDef _ _ => []

def clauseAttached : List Clause → List String
  | [] => []
  | ⟨_, b⟩ :: cs => b.attached ++ clauseAttached cs

def Suite.attached : Suite → List String
  | .inline _ _ _ => []
  | .block _ _ xs _ => stmtAttached xs

def stmtAttached : List Stmt → List String
  | [] => []
  | x :: xs => x.attached ++ stmtAttached xs

end

def Node.attached : Node → List String
  | .stmt x => x.attached
  | .stmts xs => stmtAttached xs
  | .clauses cs => clauseAttached cs
  | .suite b => b.attached

/-- The fields that functions directly in the body of the class are attached to. -/
def ClassDef.attached (c : ClassDef) : List String := c.body.attached

theorem Decorator.decoratedName?_of_attachedTo? {d : Decorator} {n : String} (h : d.attachedTo? = some n) :
    (Part.decorator true d).decoratedName? methodDecorators = some n := by
  unfold Decorator.attachedTo? at h
  split at h
  · next x dot a he =>
    split at h <;> cases h
    next ha =>
    rcases ha with ha | ha <;> simp [Part.decoratedName?, he, methodDecorators, ha, Expr.name?, Expr.bare]
  · cases h

theorem decoratedNames_mono {attrs : List String} {ps qs : List Part} (h : ps ⊆ qs) :
    decoratedNames attrs ps ⊆ decoratedNames attrs qs := List.filterMap_subset _ h

/-- The pass gathers all of them, and those of functions further inside too. -/
theorem Node.attached_subset (n : Node) : n.attached ⊆ decoratedNames methodDecorators n.parts := by
  induction n using Node.induct with
  | line | inline | noClause | noStmt | classDef => exact List.nil_subset _
  | compound cs ih | block o i xs f ih => exact ih
  | funcDef h b ih =>
    intro x hx
    obtain ⟨d, hd, hdx⟩ := List.mem_filterMap.1 hx
    refine List.mem_filterMap.2 ⟨_, ?_, d.decoratedName?_of_attachedTo? hdx⟩
    simp [Node.parts, Stmt.parts, FuncHead.parts, hd]
  | clause head b cs ihb ihc =>
    refine List.append_subset.2 ⟨List.Subset.trans ihb (decoratedNames_mono ?_), List.Subset.trans ihc (decoratedNames_mono ?_)⟩
    · simp [Node.parts, clauseParts, Clause.parts]
    · exact List.subset_append_right _ _
  | next x xs ihx ihxs =>
    refine List.append_subset.2 ⟨List.Subset.trans ihx (decoratedNames_mono ?_), List.Subset.trans ihxs (decoratedNames_mono ?_)⟩
    · exact List.subset_append_left _ _
    · exact List.subset_append_right _ _

theorem ClassDef.attached_subset (c : ClassDef) : c.attached ⊆ c.decorated :=
  List.Subset.trans (Node.attached_subset (.suite c.body)) (decoratedNames_mono (List.subset_append_right _ _))

/-! ## The class entered last -/

mutual

/-- The assignments outside of functions and classes, each with the class that is entered last before it; `c` is the one
entered last before all of them, if there is one. -/
def Stmt.recent (c : Option ClassDef) : Stmt → List (Option ClassDef × Item)
  | .line l => (itemAssignments l.items).map (c, ·)
  | .compound cs => clauseRecent c cs
  | .funcDef _ _ => []
  | .classDef _ _ => []

def clauseRecent (c : Option ClassDef) : List Clause → List (Option ClassDef × Item)
  | [] => []
  | ⟨_, b⟩ :: cs => b.recent c ++ clauseRecent ((lastEntered b.events).or c) cs

def Suite.recent (c : Option ClassDef) : Suite → List (Option ClassDef × Item)
  | .inline _ is _ => (itemAssignments is).map (c, ·)
  | .block _ _ xs _ => stmtRecent c xs

def stmtRecent (c : Option ClassDef) : List Stmt → List (Option ClassDef × Item)
  | [] => []
  | x :: xs => x.recent c ++ stmtRecent ((lastEntered x.events).or c) xs

end

def Node.recent (c : Option ClassDef) : Node → List (Option ClassDef × Item)
  | .stmt x => x.recent c
  | .stmts xs => stmtRecent c xs
  | .clauses cs => clauseRecent c cs
  | .suite b => b.recent c

/-- The assignments in the body of the class outside of functions, each with the class inside of it that is entered last before
the assignment. -/
def ClassDef.recent (c : ClassDef) : List (Option ClassDef × Item) := c.body.recent none

variable {r : Resolver} {c : ClassDef}

/-- The names that the pass goes by are those of the class entered last, or of `c` itself. -/
def Seen.OfLast (c : ClassDef) (k : Seen) (last : Option ClassDef) : Prop := k.decorated = (last.getD c).decorated

theorem Seen.OfLast.after {k : Seen} {last : Option ClassDef} (h : k.OfLast c last) (es : List Event) :
    (k.after r es).OfLast c ((lastEntered es).or last) := by
  unfold Seen.OfLast at h ⊢
  cases hl : lastEntered es <;> simp [Seen.after, hl, h]

theorem Seen.OfLast.after_calls {k : Seen} {last : Option ClassDef} (h : k.OfLast c last) {es : List Event}
    (hes : ∀ e ∈ es, e.entered? = none) : (k.after r es).OfLast c last := by
  have hafter := h.after (r := r) es
  rwa [lastEntered_eq_none_iff.2 hes, Option.none_or] at hafter

/-- The same assignment, and what the pass goes by there. -/
def SameAssignment (c : ClassDef) (y : Option ClassDef × Item) (z : Seen × Item) : Prop := z.2 = y.2 ∧ z.1.OfLast c y.1

theorem itemDeclared_recent {k : Seen} {last : Option ClassDef} (h : k.OfLast c last) (is : List Item) :
    List.Forall₂ (SameAssignment c) ((itemAssignments is).map (last, ·)) (itemDeclared r k is) := by
  induction is generalizing k with
  | nil => exact .nil
  | cons i is ih =>
    have hk : (k.after r i.stmt.events).OfLast c last := h.after_calls (calls_enter_nothing _ _)
    unfold itemAssignments at ih ⊢
    rw [itemDeclared, List.filter_cons]
    split
    · exact .cons ⟨rfl, hk⟩ (ih hk)
    · exact ih hk

theorem Node.declared_recent (n : Node) : ∀ {k : Seen} {last : Option ClassDef}, k.OfLast c last →
    List.Forall₂ (SameAssignment c) (n.recent last) (n.declared r k) := by
  induction n using Node.induct with
  | line l => exact fun h => itemDeclared_recent h l.items
  | inline o is t => exact fun h => itemDeclared_recent h is
  | noClause | noStmt | funcDef | classDef => exact fun _ => .nil
  | compound cs ih | block o i xs f ih => exact ih
  | clause head b cs ihb ihc =>
    intro k last h
    -- classes are entered in the suites only, not in the headers
    have hhead : (k.after r (partEvents head.header.parts)).OfLast c last := h.after_calls (parts_enter_nothing _)
    exact List.rel_append (ihb hhead) (ihc (hhead.after _))
  | next x xs ihx ihxs =>
    intro k last h
    exact List.rel_append (ihx h) (ihxs (h.after _))

theorem ClassDef.declared_recent (c : ClassDef) : List.Forall₂ (SameAssignment c) c.recent (c.declared r) := by
  have hbegin : Seen.OfLast c ⟨false, c.decorated⟩ none := rfl
  exact Node.declared_recent (.suite c.body) (hbegin.after_calls (header_enters_nothing _ _))

/-! ## What takes the place of an assignment -/

/-- A declaration has taken the place of an assignment of a field call. It is a field object just if other arguments ask for
one or its first target has a method in the class entered last. So a field with a method of `c` is a field object, unless the
class entered last is one inside of `c` without a method of that name. -/
def Redeclared (r : Resolver) (c : ClassDef) (y : Option ClassDef × Item) (i : Item) : Prop :=
  ∃ (target : Expr) (call : Call) (hint : Hint) (g : Given),
    y.2.stmt.target? = some target ∧ y.2.stmt.assigned?.bind r.fieldCall? = some call ∧
    i.stmt = .annAssign target hint ((g.expr? r.fieldSource).map fun e => ⟨" = ", e⟩) ∧
    ((∃ new, g = .field new) ↔
      (∃ n ∈ (y.1.getD c).decorated, target.name? = some n) ∨ ∃ a ∈ call.args, a.isOther = true) ∧
    ∀ n ∈ c.attached, target.name? = some n → (∀ d ∈ y.1, n ∈ d.decorated) → ∃ new, g = .field new

theorem Small.replaced?_eq_some {k : Seen} {x : Small} {t : Expr} {call : Call} (h : x.replaced? r k = some (t, call)) :
    x.target? = some t ∧ x.assigned?.bind r.fieldCall? = some call := by
  unfold Small.replaced? at h
  split at h
  · split at h
    · cases h
    · obtain ⟨call', hcall, ⟨⟩⟩ := Option.map_eq_some_iff.1 h
      exact ⟨rfl, hcall⟩
  · split at h
    · cases h
    · obtain ⟨call', hcall, ⟨⟩⟩ := Option.map_eq_some_iff.1 h
      exact ⟨rfl, hcall⟩
  · cases h

theorem Seen.OfLast.forces_iff {k : Seen} {last : Option ClassDef} (h : k.OfLast c last) (target : Expr) :
    k.inside.forces target = true ↔ ∃ n ∈ (last.getD c).decorated, target.name? = some n := by
  unfold Seen.OfLast at h
  cases htarget : target.name? <;> simp [State.forces, Seen.inside, htarget, h]

theorem Replaces.redeclared {last : Option ClassDef} {k : Seen} {i i' : Item}
    (hlast : (k.after r i.stmt.events).OfLast c last) (h : Replaces r (k.after r i.stmt.events, i) i') :
    i' = i ∨ Redeclared r c (last, i) i' := by
  rcases h with ⟨-, rfl⟩ | ⟨x, hx, rfl⟩
  · exact .inl rfl
  · rcases upgradeSmall?_cases (r := r) k i.stmt with ⟨-, hkept⟩ | ⟨target, call, hint, hreplaced, hbuilt⟩
    · rw [hkept] at hx
      cases hx
    · rw [hbuilt] at hx
      obtain ⟨htarget, hcall⟩ := Small.replaced?_eq_some hreplaced
      have hfield : (∃ new, (FieldArgs.parse call.args).given ((k.after r i.stmt.events).inside.forces target) = .field new) ↔
          (∃ n ∈ (last.getD c).decorated, target.name? = some n) ∨ ∃ a ∈ call.args, a.isOther = true := by
        rw [← hlast.forces_iff]
        exact FieldArgs.exists_given_field_iff
      refine .inr ⟨target, call, hint, _, htarget, hcall, FieldArgs.build_given (except_map_some hx), hfield, ?_⟩
      intro n hn hname hinner
      refine hfield.2 (.inl ⟨n, ?_, hname⟩)
      -- only if no class has been entered inside do the names of `c` itself count
      cases last with
      | none => exact c.attached_subset hn
      | some d => exact hinner d rfl

theorem forall₂_trans {α β γ : Type} {P : α → β → Prop} {Q : β → γ → Prop} {R : α → γ → Prop}
    (hR : ∀ a b c, P a b → Q b c → R a c) {as : List α} {bs : List β} {cs : List γ} (h : List.Forall₂ P as bs)
    (h' : List.Forall₂ Q bs cs) : List.Forall₂ R as cs := by
  induction h generalizing cs with
  | nil =>
    cases h'
    exact .nil
  | cons hab _ ih =>
    cases h' with
    | cons hbc hrest => exact .cons (hR _ _ _ hab hbc) (ih hrest)

theorem ClassDef.KeptOrUpgraded.redeclared {c' : ClassDef} (h : c.KeptOrUpgraded r c'.view) :
    List.Forall₂ (fun y i => i = y.2 ∨ Redeclared r c y i) c.recent (c'.assignments false) := by
  rcases h with hkept | hup
  · have hitems : List.Forall₂ (fun (z : Seen × Item) i => i = z.2) (c.declared r) (c'.assignments false) := by
      rw [show c'.assignments false = c.assignments false from congrArg ClassView.declarations hkept,
        ← c.declared_items (r := r), List.forall₂_map_right_iff]
      exact List.forall₂_same.2 fun _ _ => rfl
    exact forall₂_trans (fun y z i hyz hi => .inl (hi.trans hyz.1)) c.declared_recent hitems
  · have hitems := (List.forall₂_and_left _ _).2 ⟨Node.declared_after r (.suite c.body) _, hup.declarations⟩
    refine forall₂_trans ?_ c.declared_recent hitems
    rintro ⟨last, i⟩ ⟨k, j⟩ i' ⟨hij, hlast⟩ ⟨⟨k₀, hk⟩, hr⟩
    obtain rfl : j = i := hij
    obtain rfl : k = k₀.after r j.stmt.events := hk
    exact hr.redeclared hlast

/-! ## Main theorem -/

/-- In the tree that the pass makes of a module, every assignment of a class stays or is redeclared: a field with a method is
a field object as long as the class entered last inside of its class, if there is one, has a method of that name too. -/
theorem assignments_kept_or_redeclared {text : String} {m visited : Module} {table : Table}
    (hp : Module.parse? text = some m) (hs : m.scan = .ok table)
    (hv : (Session.fresh.transform text).visited = some visited) :
    List.Forall₂ (fun c c' => List.Forall₂ (fun y i => i = y.2 ∨ Redeclared (table.resolver m) c y i)
      c.recent (c'.assignments false)) m.classes visited.classes := by
  obtain ⟨t, vs, hvisit⟩ := Session.visit_of_visited hp hs hv
  exact (hvisit.kept_or_upgraded rfl).imp fun c c' h => h.redeclared

/-- The fields with methods of a class, and the texts of its assignments with the class that was entered last before each. -/
def ClassDef.outline (c : ClassDef) : List String × List (Option String × String) :=
  (c.attached, c.recent.map fun y => (y.1.map ClassDef.name, y.2.stmt.text))

/-- The texts of the assignments of each class. -/
def Module.declarationTexts (m : Module) : List (List String) :=
  m.classes.map fun c => (c.assignments false).map fun i => i.stmt.text

/-- A field with a validator, after a class inside that has a field of the same name with a default. -/
def sameMethodsText : String :=
  "import attr\nclass A:\n class B:\n  x = attr.ib(type=str)\n  @x.default\n  def f(self): 0\n" ++
    " x = attr.ib(type=int)\n @x.validator\n def g(self, a, v): 0\n"

theorem same_methods_stay_fields : ∃ m table visited, Module.parse? sameMethodsText = some m ∧ m.scan = .ok table ∧
    (Session.fresh.transform sameMethodsText).visited = some visited ∧
    m.classes.map ClassDef.outline =
      [(["x"], [(none, "x = attr.ib(type=str)")]), (["x"], [(some "B", "x = attr.ib(type=int)")])] ∧
    visited.declarationTexts = [["x: str = field()"], ["x: int = field()"]] ∧
    List.Forall₂ (fun c c' => List.Forall₂ (fun y i => i = y.2 ∨ Redeclared (table.resolver m) c y i)
      c.recent (c'.assignments false)) m.classes visited.classes := by
  have heval : observeVisit sameMethodsText (fun m _ visited => decide (
      m.classes.map ClassDef.outline =
        [(["x"], [(none, "x = attr.ib(type=str)")]), (["x"], [(some "B", "x = attr.ib(type=int)")])] ∧
      visited.declarationTexts = [["x: str = field()"], ["x: int = field()"]])) = some true := by
    decide +kernel
  obtain ⟨m, table, visited, hp, hs, hv, heval⟩ := exists_of_observeVisit heval
  obtain ⟨hold, hnew⟩ := of_decide_eq_true heval
  exact ⟨m, table, visited, hp, hs, hv, hold, hnew, assignments_kept_or_redeclared hp hs hv⟩

/-- A field with a validator, after a class inside that has no methods. -/
def emptyInnerText : String :=
  "import attr\n@attr.s\nclass A:\n class B: 0\n x = attr.ib(type=int)\n @x.validator\n def f(self, a, v): 0\n"

/-- It is no field object any more, and the validator has nothing to go to. -/
theorem field_lost_after_inner_class : ∃ m table visited, Module.parse? emptyInnerText = some m ∧ m.scan = .ok table ∧
    (Session.fresh.transform emptyInnerText).visited = some visited ∧
    m.classes.map ClassDef.outline = [([], []), (["x"], [(some "B", "x = attr.ib(type=int)")])] ∧
    visited.declarationTexts = [[], ["x: int"]] := by
  have heval : observeVisit emptyInnerText (fun m _ visited => decide (
      m.classes.map ClassDef.outline = [([], []), (["x"], [(some "B", "x = attr.ib(type=int)")])] ∧
      visited.declarationTexts = [[], ["x: int"]])) = some true := by
    decide +kernel
  obtain ⟨m, table, visited, hp, hs, hv, heval⟩ := exists_of_observeVisit heval
  exact ⟨m, table, visited, hp, hs, hv, of_decide_eq_true heval⟩

end AttrsUpgrade
