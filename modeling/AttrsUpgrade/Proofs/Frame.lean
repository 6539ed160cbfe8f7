import AttrsUpgrade.Proofs.Upgraded
/-!
# What the pass leaves alone

The pass replaces decorators of the old style and assignments of field calls, one for one and where they stand. `Edited` says
this of two trees; what it does not mention is the same in both. Hence two texts that are the same but for the replaced nodes
(`Edited.differ`), and both statements hold of every run that does not fail (`pass_edits_only`).
-/

namespace AttrsUpgrade

/-- The resolver that goes by the qualified names of expressions. -/
def Resolver.ofNames (names : Expr → List String) (source : FieldSource) : Resolver where
  isField c := (names c.func).any fieldMakers.contains
  isClassDecorator e := (names e).any classDecorators.contains
  fieldSource := source

/-- The resolver of a module is one of these. -/
theorem Table.resolver_eq_ofNames (t : Table) (m : Module) : t.resolver m = .ofNames t.qualifiedNamesOf m.fieldSource := rfl

/-! ## Edits -/

section
variable (r : Resolver)

/-- A decorator of the old style and the one in its place. -/
structure Decorator.Replaced (d d' : Decorator) : Prop where
  old : r.isClassDecorator d.expr = true
  new : d.upgrade = .ok d'

/-- An assignment of a field call and the one in its place, which has no semicolon of its own. -/
structure Item.Replaced (i i' : Item) : Prop where
  old : ∃ value ∈ i.stmt.assigned?, ∃ call ∈ value.call?, r.isField call = true
  new : ∃ s, upgradeSmall? r s i.stmt = .ok (some i'.stmt)
  assigns : i'.stmt.isAssignment = true
  semicolon : i'.semicolon = none

def DecoratorEdit (d d' : Decorator) : Prop := d' = d ∨ d.Replaced r d'

def ItemEdit (i i' : Item) : Prop := i' = i ∨ i.Replaced r i'

/-- The second node is the first with some decorators and assignments replaced. -/
inductive Edited : Node → Node → Prop
  | line {l is} : List.Forall₂ (ItemEdit r) l.items is → Edited (.stmt (.line l)) (.stmt (.line { l with items := is }))
  | compound {cs cs'} : Edited (.clauses cs) (.clauses cs') → Edited (.stmt (.compound cs)) (.stmt (.compound cs'))
  | funcDef {h ds b b'} : List.Forall₂ (DecoratorEdit r) h.decorators ds → Edited (.suite b) (.suite b') →
      Edited (.stmt (.funcDef h b)) (.stmt (.funcDef { h with decorators := ds } b'))
  | classDef {h ds b b'} : List.Forall₂ (DecoratorEdit r) h.decorators ds → Edited (.suite b) (.suite b') →
      Edited (.stmt (.classDef h b)) (.stmt (.classDef { h with decorators := ds } b'))
  | inline {o is is' t} : List.Forall₂ (ItemEdit r) is is' → Edited (.suite (.inline o is t)) (.suite (.inline o is' t))
  | block {o i xs xs' f} : Edited (.stmts xs) (.stmts xs') → Edited (.suite (.block o i xs f)) (.suite (.block o i xs' f))
  | noClause : Edited (.clauses []) (.clauses [])
  | clause {head b b' cs cs'} : Edited (.suite b) (.suite b') → Edited (.clauses cs) (.clauses cs') →
      Edited (.clauses (⟨head, b⟩ :: cs)) (.clauses (⟨head, b'⟩ :: cs'))
  | noStmt : Edited (.stmts []) (.stmts [])
  | next {x x' xs xs'} : Edited (.stmt x) (.stmt x') → Edited (.stmts xs) (.stmts xs') →
      Edited (.stmts (x :: xs)) (.stmts (x' :: xs'))

end

variable {r : Resolver} {s s' : State}

theorem decoratorEdits_refl (ds : List Decorator) : List.Forall₂ (DecoratorEdit r) ds ds :=
  List.forall₂_same.2 fun _ _ => .inl rfl

theorem itemEdits_refl (is : List Item) : List.Forall₂ (ItemEdit r) is is := List.forall₂_same.2 fun _ _ => .inl rfl

theorem Edited.refl (n : Node) : Edited r n n := by
  induction n using Node.induct with
  | line l => exact .line (itemEdits_refl _)
  | compound cs ih => exact .compound ih
  | funcDef h b ih => exact .funcDef (decoratorEdits_refl _) ih
  | classDef h b ih => exact .classDef (decoratorEdits_refl _) ih
  | inline o is t => exact .inline (itemEdits_refl _)
  | block o i xs f ih => exact .block ih
  | noClause => exact .noClause
  | clause head b cs ihb ihc => exact .clause ihb ihc
  | noStmt => exact .noStmt
  | next x xs ihx ihxs => exact .next ihx ihxs

/-! ## The pass edits -/

/-- What replaces a small statement replaces an assignment of a field call. -/
theorem upgradeSmall?_assigned {x y : Small} (h : upgradeSmall? r s x = .ok (some y)) :
    ∃ value ∈ x.assigned?, ∃ call ∈ value.call?, r.isField call = true := by
  obtain ⟨target, value, c, -, hvalue, hc, -⟩ := upgradeSmall?_built h
  exact ⟨value, hvalue, c, fieldCall?_eq_some hc⟩

theorem item_edit {i i' : Item} (h : Pass.Ok (visitItem r i) s i' s') : ItemEdit r i i' := by
  simp only [visitItem, Pass.ok_bind, Pass.ok_modify, Pass.ok_get, Pass.ok_ofExcept] at h
  obtain ⟨u, _, rfl, t, _, ⟨rfl, rfl⟩, y, _, ⟨hy, rfl⟩, h⟩ := h
  cases y with
  | none => exact .inl (Pass.ok_pure.1 h).1
  | some x =>
    rw [(Pass.ok_pure.1 h).1]
    exact .inr ⟨upgradeSmall?_assigned hy, ⟨_, hy⟩, (upgradeSmall?_isAssignment hy).2, rfl⟩

theorem items_edit {is is' : List Item} (h : Pass.Ok (visitItems r is) s is' s') :
    List.Forall₂ (ItemEdit r) is is' := by
  induction is generalizing s is' with
  | nil =>
    obtain ⟨rfl, -⟩ := Pass.ok_pure.1 h
    exact .nil
  | cons i is ih =>
    simp only [visitItems, Pass.ok_bind, Pass.ok_pure] at h
    obtain ⟨i', s₁, hi, is', s₂, his, rfl, rfl⟩ := h
    exact .cons (item_edit hi) (ih his)

theorem decorator_edit {d d' : Decorator} (h : Pass.Ok (visitDecorator r d) s d' s') : DecoratorEdit r d d' := by
  simp only [visitDecorator, Pass.ok_bind, Pass.ok_get, see_ok] at h
  obtain ⟨u, _, rfl, t, _, ⟨rfl, rfl⟩, h⟩ := h
  split at h
  · next hr =>
    simp only [Bool.and_eq_true] at hr
    exact .inr ⟨hr.2, (Pass.ok_ofExcept.1 h).1⟩
  · exact .inl (Pass.ok_pure.1 h).1

theorem decorators_edit {ds ds' : List Decorator} (h : Pass.Ok (visitDecorators r ds) s ds' s') :
    List.Forall₂ (DecoratorEdit r) ds ds' := by
  induction ds generalizing s ds' with
  | nil =>
    obtain ⟨rfl, -⟩ := Pass.ok_pure.1 h
    exact .nil
  | cons d ds ih =>
    simp only [visitDecorators, Pass.ok_bind, Pass.ok_pure] at h
    obtain ⟨d', s₁, hd, ds', s₂, hds, rfl, rfl⟩ := h
    exact .cons (decorator_edit hd) (ih hds)

theorem Visit.edited {n n' : Node} {vs : List ClassVisit} (h : Visit r s n n' s' vs) : Edited r n n' := by
  induction h with
  | line hi => exact .line (items_edit hi)
  | compound _ ih => exact .compound ih
  | funcDef hd _ ih => exact .funcDef (decorators_edit hd) ih
  | @classDef s s₁ s₂ h ds b b' vs v hd _ hv ih =>
    subst hv
    unfold ClassVisit.result
    split
    · exact .refl _
    · exact .classDef (decorators_edit hd) ih
  | inline hi => exact .inline (items_edit hi)
  | block _ ih => exact .block ih
  | noClause => exact .noClause
  | clause _ _ ihb ihc => exact .clause ihb ihc
  | noStmt => exact .noStmt
  | next _ _ ihx ihxs => exact .next ihx ihxs

/-! ## Texts -/

/-- A stretch of two texts: the same in both, or a node that was replaced. -/
inductive Spot where
  | same (text : String)
  | decorator (l : Layout) (old new : Decorator)
  /-- A small statement with its semicolon; `more` tells whether another one follows. -/
  | item (l : Layout) (more : Bool) (old new : Item)

namespace Spot

def before : Spot → String
  | .same text => text
  | .decorator l old _ => Span.write l old.print
  | .item l more old _ => Span.write l (old.print more)

def after : Spot → String
  | .same text => text
  | .decorator l _ new => Span.write l new.print
  | .item l more _ new => Span.write l (new.print more)

/-- What is replaced stands among the first parts, what replaces it among the second. -/
def Justified (r : Resolver) (ps ps' : List Part) : Spot → Prop
  | .same _ => True
  | .decorator _ old new => old.Replaced r new ∧
      (∃ b, Part.decorator b old ∈ ps) ∧ ∃ b, Part.decorator b new ∈ ps'
  | .item _ _ old new => old.Replaced r new ∧ .small old.stmt ∈ ps ∧ .small new.stmt ∈ ps'

theorem Justified.mono {ps ps' qs qs' : List Part} {x : Spot} (h : x.Justified r ps ps') (hp : ps ⊆ qs) (hp' : ps' ⊆ qs') :
    x.Justified r qs qs' := by
  cases x with
  | same text => trivial
  | decorator l old new =>
    obtain ⟨hr, ⟨b, hb⟩, b', hb'⟩ := h
    exact ⟨hr, ⟨b, hp hb⟩, b', hp' hb'⟩
  | item l more old new => exact ⟨h.1, hp h.2.1, hp' h.2.2⟩

end Spot

/-- The two texts, of things made of the parts `ps` and `ps'`, differ only where nodes were replaced. -/
def Differ (r : Resolver) (ps ps' : List Part) (a a' : String) : Prop :=
  ∃ spots : List Spot, (∀ x ∈ spots, x.Justified r ps ps') ∧
    a = joinAll (spots.map Spot.before) ∧ a' = joinAll (spots.map Spot.after)

theorem joinAll_append (xs ys : List String) : joinAll (xs ++ ys) = joinAll xs ++ joinAll ys := by
  induction xs with
  | nil => simp [joinAll]
  | cons x xs ih => simp [joinAll, ih, String.append_assoc]

@[simp] theorem Span.write_append (l : Layout) (a b : Span) : Span.write l (a ++ b) = Span.write l a ++ Span.write l b := by
  induction a with
  | nil => simp [Span.write]
  | cons p a ih => simp [Span.write, ih, String.append_assoc]

namespace Differ
variable {ps ps' qs qs' : List Part} {a a' b b' : String}

theorem same (a : String) : Differ r ps ps' a a := ⟨[.same a], by simp [Spot.Justified], by simp [joinAll, Spot.before, Spot.after]⟩

theorem mono (h : Differ r ps ps' a a') (hp : ps ⊆ qs) (hp' : ps' ⊆ qs') : Differ r qs qs' a a' := by
  obtain ⟨spots, hj, ha, ha'⟩ := h
  exact ⟨spots, fun x hx => (hj x hx).mono hp hp', ha, ha'⟩

theorem append (h : Differ r ps ps' a a') (h' : Differ r qs qs' b b') :
    Differ r (ps ++ qs) (ps' ++ qs') (a ++ b) (a' ++ b') := by
  obtain ⟨spots, hj, rfl, rfl⟩ := h
  obtain ⟨spots', hj', rfl, rfl⟩ := h'
  refine ⟨spots ++ spots', ?_, by rw [List.map_append, joinAll_append], by rw [List.map_append, joinAll_append]⟩
  intro x hx
  rcases List.mem_append.1 hx with hx | hx
  · exact (hj x hx).mono (List.subset_append_left _ _) (List.subset_append_left _ _)
  · exact (hj' x hx).mono (List.subset_append_right _ _) (List.subset_append_right _ _)

/-- The same text before and after. -/
theorem between (h : Differ r ps ps' a a') (front back : String) :
    Differ r ps ps' (front ++ a ++ back) (front ++ a' ++ back) := by
  have hfront : Differ r [] [] front front := .same _
  have hback : Differ r [] [] back back := .same _
  simpa using (hfront.append h).append hback

end Differ

theorem itemEdit_differ {i i' : Item} (h : ItemEdit r i i') (l : Layout) (more : Bool) :
    Differ r [.small i.stmt] [.small i'.stmt] (Span.write l (i.print more)) (Span.write l (i'.print more)) := by
  rcases h with rfl | h
  · exact .same _
  · exact ⟨[.item l more i i'], by simp [Spot.Justified, h], by simp [joinAll, Spot.before], by simp [joinAll, Spot.after]⟩

theorem itemEdits_differ {is is' : List Item} (h : List.Forall₂ (ItemEdit r) is is') (l : Layout) :
    Differ r (is.map fun i => .small i.stmt) (is'.map fun i => .small i.stmt)
      (Span.write l (printItems is)) (Span.write l (printItems is')) := by
  induction h with
  | nil => exact .same _
  | @cons i i' is is' hi his ih =>
    -- whether another statement follows is the same in both lists
    have hmore : is.isEmpty = is'.isEmpty := by cases his <;> rfl
    rw [printItems, printItems, Span.write_append, Span.write_append, hmore]
    exact (itemEdit_differ hi l _).append ih

theorem decoratorEdit_differ {d d' : Decorator} (h : DecoratorEdit r d d') (l : Layout) (b : Bool) :
    Differ r [.decorator b d] [.decorator b d'] (Span.write l d.print) (Span.write l d'.print) := by
  rcases h with rfl | h
  · exact .same _
  · exact ⟨[.decorator l d d'], by simp [Spot.Justified, h], by simp [joinAll, Spot.before], by simp [joinAll, Spot.after]⟩

theorem decoratorEdits_differ {ds ds' : List Decorator} (h : List.Forall₂ (DecoratorEdit r) ds ds') (l : Layout) (b : Bool) :
    Differ r (ds.map (.decorator b)) (ds'.map (.decorator b))
      (Span.write l (ds.flatMap Decorator.print)) (Span.write l (ds'.flatMap Decorator.print)) := by
  induction h with
  | nil => exact .same _
  | cons hd _ ih =>
    rw [List.flatMap_cons, List.flatMap_cons, Span.write_append, Span.write_append]
    exact (decoratorEdit_differ hd l b).append ih

/-! ## Texts of nodes -/

/-- What the header of a function prints after its decorators. -/
def FuncHead.afterDecorators (h : FuncHead) : Span :=
  h.between.flatten ++ .margin :: h.opening ++ h.name.print ++ h.lpar ++ printParams h.params ++ h.rpar ++
    (h.returns.map Hint.print).getD []

/-- What the header of a class prints after its decorators. -/
def ClassHead.afterDecorators (h : ClassHead) : Span :=
  h.between.flatten ++ .margin :: h.opening ++ h.name.print ++ (h.args.map ClassArgs.print).getD []

theorem Line.write_print (l : Layout) (x : Line) : Span.write l x.print =
    Span.write l (x.leading.flatten ++ [.margin]) ++ Span.write l (printItems x.items) ++ Span.write l x.trailing := by
  simp [Line.print, Span.write, String.append_assoc]

theorem FuncHead.write_print (l : Layout) (h : FuncHead) : Span.write l h.print =
    Span.write l h.leading.flatten ++ Span.write l (h.decorators.flatMap Decorator.print) ++
      Span.write l h.afterDecorators := by
  simp [FuncHead.print, FuncHead.afterDecorators, String.append_assoc]

theorem ClassHead.write_print (l : Layout) (h : ClassHead) : Span.write l h.print =
    Span.write l h.leading.flatten ++ Span.write l (h.decorators.flatMap Decorator.print) ++
      Span.write l h.afterDecorators := by
  simp [ClassHead.print, ClassHead.afterDecorators, String.append_assoc]

def Node.parts : Node → List Part
  | .stmt x => x.parts
  | .stmts xs => stmtParts xs
  | .clauses cs => clauseParts cs
  | .suite b => b.parts

def Node.write (l : Layout) : Node → String
  | .stmt x => x.write l
  | .stmts xs => writeStmts l xs
  | .clauses cs => writeClauses l cs
  | .suite b => b.write l

theorem funcHead_differ {h : FuncHead} {ds : List Decorator} (hd : List.Forall₂ (DecoratorEdit r) h.decorators ds)
    (l : Layout) : Differ r h.parts { h with decorators := ds }.parts (Span.write l h.print)
      (Span.write l { h with decorators := ds }.print) := by
  have hdiff := (decoratorEdits_differ hd l true).between (Span.write l h.leading.flatten) (Span.write l h.afterDecorators)
  rw [FuncHead.write_print, FuncHead.write_print]
  refine hdiff.mono ?_ ?_ <;> simp [FuncHead.parts]

theorem classHead_differ {h : ClassHead} {ds : List Decorator} (hd : List.Forall₂ (DecoratorEdit r) h.decorators ds)
    (l : Layout) : Differ r h.parts { h with decorators := ds }.parts (Span.write l h.print)
      (Span.write l { h with decorators := ds }.print) := by
  have hdiff := (decoratorEdits_differ hd l false).between (Span.write l h.leading.flatten) (Span.write l h.afterDecorators)
  rw [ClassHead.write_print, ClassHead.write_print]
  refine hdiff.mono ?_ ?_ <;> simp [ClassHead.parts]

theorem inline_differ {o : Span} {is is' : List Item} {t : Span} (hi : List.Forall₂ (ItemEdit r) is is') (l : Layout) :
    Differ r (Suite.inline o is t).parts (Suite.inline o is' t).parts ((Suite.inline o is t).write l)
      ((Suite.inline o is' t).write l) := by
  have hdiff := (itemEdits_differ hi l).between (Span.write l o) (Span.write l t)
  cases hi with
  | nil => exact .same _
  | cons hi his => simpa [Suite.write, Suite.parts, String.append_assoc] using hdiff

/-- The texts of a node and of the edited one differ only where nodes were replaced. -/
theorem Edited.differ {n n' : Node} (h : Edited r n n') : ∀ l, Differ r n.parts n'.parts (n.write l) (n'.write l) := by
  induction h with
  | @line x is hi =>
    intro l
    rw [Node.write, Node.write, Stmt.write, Stmt.write, Line.write_print, Line.write_print]
    exact (itemEdits_differ hi l).between _ _
  | compound _ ih => exact ih
  | funcDef hd _ ih => exact fun l => (funcHead_differ hd l).append (ih l)
  | classDef hd _ ih => exact fun l => (classHead_differ hd l).append (ih l)
  | inline hi => exact fun l => inline_differ hi l
  | @block o i xs xs' f hx ih =>
    intro l
    have hdiff := (ih (l.deeper i)).between (Span.write l o) (writeAll (l.deeper i) f)
    cases hx with
    | noStmt => exact .same _
    | next hx hxs => simpa [Node.write, Suite.write, Node.parts, Suite.parts] using hdiff
  | noClause | noStmt => exact fun _ => .same _
  | @clause head b b' cs cs' _ _ ihb ihc =>
    intro l
    have hhead : Differ r head.header.parts head.header.parts (Span.write l head.print) (Span.write l head.print) := .same _
    exact (hhead.append (ihb l)).append (ihc l)
  | next _ _ ihx ihxs => exact fun l => (ihx l).append (ihxs l)

/-! ## Main theorem -/

/-- The text of a module before its end is put right. -/
def Module.lines (m : Module) : String :=
  let l : Layout := ⟨"", m.newline⟩
  writeAll l m.header ++ writeStmts l m.body ++ writeAll l m.footer

/-- Puts the end of a module's text right: a text that is to have no newline at its end loses it, and one that is to have
it is not empty. -/
def Module.ending (m : Module) (text : String) : String :=
  if m.finalNewline then
    if text.isEmpty then m.newline else text
  else dropFinalNewline text

/-- Where the pass does not fail, whatever the state and the names, it only replaces decorators of the old style and
assignments of field calls, one for one and in place. So the text differs only where these stand. -/
theorem pass_edits_only {names : Expr → List String} {source : FieldSource} {m m' : Module} {s s' : State}
    (h : (visitModule (.ofNames names source) m).run.run s = (.ok m', s')) :
    m' = { m with body := m'.body } ∧
    Edited (.ofNames names source) (.stmts m.body) (.stmts m'.body) ∧
    m.print = m.ending m.lines ∧ m'.print = m.ending m'.lines ∧
    Differ (.ofNames names source) m.parts m'.parts m.lines m'.lines := by
  obtain ⟨vs, hv, hm⟩ := visit_of_module h
  have hprint : m'.print = m.ending m'.lines := by
    rw [hm]
    rfl
  have hlines : Differ (.ofNames names source) m.parts m'.parts m.lines m'.lines := by
    have hdiff := (hv.edited.differ ⟨"", m.newline⟩).between (writeAll ⟨"", m.newline⟩ m.header)
      (writeAll ⟨"", m.newline⟩ m.footer)
    rw [hm]
    exact hdiff
  exact ⟨hm, hv.edited, rfl, hprint, hlines⟩

/-- A class of the old style with a field and another assignment on one line. -/
def sharedLineText : String := "from attr import s, ib\n@s\nclass A:\n    x = ib(type = int);  y = 1  # kept\n"

/-- The decorator and the field are replaced, the field with its semicolon; the rest of the text stays. -/
theorem typed_module_edited_only : ∃ m table m' s', Module.parse? sharedLineText = some m ∧ m.scan = .ok table ∧
    (visitModule (table.resolver m) m).run.run .fresh = (.ok m', s') ∧ m.print = sharedLineText ∧
    m'.print = "from attr import s, ib\n@define\nclass A:\n    x: int; y = 1  # kept\n" ∧
    Edited (table.resolver m) (.stmts m.body) (.stmts m'.body) ∧
    Differ (table.resolver m) m.parts m'.parts m.lines m'.lines := by
  have heval : observeVisit sharedLineText (fun m _ m' => decide (m.print = sharedLineText ∧
      m'.print = "from attr import s, ib\n@define\nclass A:\n    x: int; y = 1  # kept\n")) = some true := by
    decide +kernel
  obtain ⟨m, table, m', hp, hs, hv, heval⟩ := exists_of_observeVisit heval
  obtain ⟨hold, hnew⟩ := of_decide_eq_true heval
  obtain ⟨s', hrun⟩ := Session.pass_of_visited hp hs hv
  rw [Table.resolver_eq_ofNames] at hrun
  obtain ⟨-, hedited, -, -, hdiffer⟩ := pass_edits_only hrun
  rw [← Table.resolver_eq_ofNames] at hrun hedited hdiffer
  exact ⟨m, table, m', s', hp, hs, hrun, hold, hnew, hedited, hdiffer⟩

end AttrsUpgrade
