import AttrsUpgrade.Proofs.Visit
/-!
# What the untyped flag means

One flag, one class name and one set of names serve for all classes, and entering a class overwrites them. So at any time they
tell about the class entered last, and about the calls seen since. `Visit.moved` says this of every visit; the rest follows
from it.
-/

namespace AttrsUpgrade

/-! ## Events -/

namespace Event

def entered? : Event → Option ClassDef
  | .enter c => some c
  | .call _ _ => none

variable (r : Resolver)

/-- Whether the event is a call that makes a field without type, outside of annotated assignments. -/
def raises : Event → Bool
  | .enter _ => false
  | .call annotated c => !annotated && r.isUntyped c

/-- The flag after an event inside a class. -/
def mark (b : Bool) (e : Event) : Bool := e.entered?.isNone && (b || e.raises r)

end Event

def lastEntered (es : List Event) : Option ClassDef := (es.filterMap Event.entered?).getLast?

theorem lastEntered_append (es es' : List Event) : lastEntered (es ++ es') = (lastEntered es').or (lastEntered es) := by
  simp [lastEntered, List.getLast?_append]

/-! ## Calls enter no class -/

theorem calls_enter_nothing (a : Bool) (cs : List Call) : ∀ e ∈ cs.map (Event.call a), e.entered? = none := by
  intro e he
  obtain ⟨c, -, rfl⟩ := List.mem_map.1 he
  rfl

theorem parts_enter_nothing (ps : List Part) : ∀ e ∈ partEvents ps, e.entered? = none := calls_enter_nothing _ _

theorem items_enter_nothing (is : List Item) : ∀ e ∈ itemEvents is, e.entered? = none := by
  intro e he
  obtain ⟨i, -, he⟩ := List.mem_flatMap.1 he
  exact calls_enter_nothing _ _ e he

theorem header_enters_nothing (ds : List Decorator) (ps : List Part) :
    ∀ e ∈ decoratorEvents ds ++ partEvents ps, e.entered? = none :=
  List.forall_mem_append.2 ⟨parts_enter_nothing _, parts_enter_nothing _⟩

/-- A node holds no class just if it enters none. -/
theorem Node.classes_eq_nil_iff {n : Node} : n.classes = [] ↔ ∀ e ∈ n.events, e.entered? = none := by
  induction n using Node.induct with
  | line l => exact iff_of_true rfl (items_enter_nothing _)
  | inline o is t => exact iff_of_true rfl (items_enter_nothing _)
  | noClause | noStmt => exact iff_of_true rfl (by simp [Node.events, clauseEvents, stmtEvents])
  | compound cs ih | block o i xs f ih => exact ih
  | funcDef head b ih =>
    rw [Node.events, Stmt.events, List.forall_mem_append, and_iff_right (header_enters_nothing _ _)]
    exact ih
  | classDef head b ih =>
    refine iff_of_false (by simp [Node.classes, Stmt.classes]) fun h => ?_
    exact absurd (h _ List.mem_cons_self) (by simp [Event.entered?])
  | clause head b cs ihb ihc =>
    rw [Node.events, clauseEvents, List.forall_mem_append, List.forall_mem_append,
      and_iff_right (parts_enter_nothing _), Node.classes, clauseClasses, List.append_eq_nil_iff]
    exact and_congr ihb ihc
  | next x xs ihx ihxs =>
    rw [Node.events, stmtEvents, List.forall_mem_append, Node.classes, stmtClasses, List.append_eq_nil_iff]
    exact and_congr ihx ihxs

/-! ## The flag -/

/-- The flag after events inside a class. -/
def flagAfter (r : Resolver) (b : Bool) (es : List Event) : Bool := es.foldl (Event.mark r) b

theorem flagAfter_append (r : Resolver) (b : Bool) (es es' : List Event) :
    flagAfter r b (es ++ es') = flagAfter r (flagAfter r b es) es' := List.foldl_append

/-- The class `c` is the last one entered, and `post` is what comes after. -/
def LastEntry (es : List Event) (c : ClassDef) (post : List Event) : Prop :=
  (∃ pre, es = pre ++ .enter c :: post) ∧ ∀ e ∈ post, e.entered? = none

theorem lastEntered_eq_none_iff {es : List Event} : lastEntered es = none ↔ ∀ e ∈ es, e.entered? = none := by
  rw [lastEntered, List.getLast?_eq_none_iff, List.filterMap_eq_nil_iff]

theorem flagAfter_calls {r : Resolver} {b : Bool} {es : List Event} (h : ∀ e ∈ es, e.entered? = none) :
    flagAfter r b es = (b || es.any (Event.raises r)) := by
  induction es generalizing b with
  | nil => simp [flagAfter]
  | cons e es ih =>
    have he : e.entered? = none := h e List.mem_cons_self
    have hes := ih (b := b || e.raises r) fun e' he' => h e' (List.mem_cons_of_mem _ he')
    rw [List.any_cons, ← Bool.or_assoc, ← hes]
    simp [flagAfter, Event.mark, he]

theorem LastEntry.flag {r : Resolver} {b : Bool} {es post : List Event} {c : ClassDef} (h : LastEntry es c post) :
    flagAfter r b es = post.any (Event.raises r) := by
  obtain ⟨⟨pre, rfl⟩, hpost⟩ := h
  rw [List.append_cons, flagAfter_append, flagAfter_calls hpost, flagAfter_append]
  simp [flagAfter, Event.mark, Event.entered?]

theorem LastEntry.lastEntered {es post : List Event} {c : ClassDef} (h : LastEntry es c post) :
    lastEntered es = some c := by
  obtain ⟨⟨pre, rfl⟩, hpost⟩ := h
  rw [List.append_cons, lastEntered_append, lastEntered_eq_none_iff.2 hpost, lastEntered_append]
  rfl

/-- Either no class is entered, or one is the last. -/
theorem entries_cases (es : List Event) : (∀ e ∈ es, e.entered? = none) ∨ ∃ c post, LastEntry es c post := by
  induction es with
  | nil => exact .inl (by simp)
  | cons e es ih =>
    rcases ih with h | ⟨c, post, ⟨pre, rfl⟩, h⟩
    · cases e with
      | enter c => exact .inr ⟨c, es, ⟨[], rfl⟩, h⟩
      | call a c => exact .inl (by simpa [Event.entered?] using h)
    · exact .inr ⟨c, post, ⟨e :: pre, rfl⟩, h⟩

/-! ## States -/

/-- How a state moves through events. The flag is told only of events inside a class. -/
structure State.Moved (r : Resolver) (s : State) (es : List Event) (s' : State) : Prop where
  inClass : s'.inClass = s.inClass
  inAnnotated : s.inAnnotated = false → s'.inAnnotated = false
  className : s'.className = ((lastEntered es).map ClassDef.name).or s.className
  decorated : s'.decorated = ((lastEntered es).map ClassDef.decorated).getD s.decorated
  untyped : s.inClass = true → s.inAnnotated = false → s'.untyped = flagAfter r s.untyped es

variable {r : Resolver} {s s₁ s' : State} {es es' : List Event}

theorem State.Moved.trans (h : State.Moved r s es s₁) (h' : State.Moved r s₁ es' s') : State.Moved r s (es ++ es') s' where
  inClass := h'.inClass.trans h.inClass
  inAnnotated ha := h'.inAnnotated (h.inAnnotated ha)
  className := by
    rw [h'.className, h.className, lastEntered_append, ← Option.or_assoc]
    cases lastEntered es' <;> rfl
  decorated := by
    rw [h'.decorated, h.decorated, lastEntered_append]
    cases lastEntered es' <;> rfl
  untyped hc ha := by
    rw [h'.untyped (h.inClass.trans hc) (h.inAnnotated ha), h.untyped hc ha, flagAfter_append]

theorem State.Moved.refl (s : State) : State.Moved r s [] s where
  inClass := rfl
  inAnnotated ha := ha
  className := rfl
  decorated := rfl
  untyped _ _ := rfl

/-- How a state moves through events of which none enters a class: only the flag does. -/
structure State.Looked (r : Resolver) (s : State) (es : List Event) (s' : State) : Prop where
  calls : ∀ e ∈ es, e.entered? = none
  inClass : s'.inClass = s.inClass
  inAnnotated : s.inAnnotated = false → s'.inAnnotated = false
  className : s'.className = s.className
  decorated : s'.decorated = s.decorated
  skipped : s'.skipped = s.skipped
  untyped : s.inAnnotated = false → s'.untyped = (s.untyped || (s.inClass && es.any (Event.raises r)))

theorem State.Looked.trans (h : State.Looked r s es s₁) (h' : State.Looked r s₁ es' s') :
    State.Looked r s (es ++ es') s' where
  calls := List.forall_mem_append.2 ⟨h.calls, h'.calls⟩
  inClass := h'.inClass.trans h.inClass
  inAnnotated ha := h'.inAnnotated (h.inAnnotated ha)
  className := h'.className.trans h.className
  decorated := h'.decorated.trans h.decorated
  skipped := h'.skipped.trans h.skipped
  untyped ha := by
    rw [h'.untyped (h.inAnnotated ha), h.untyped ha, h.inClass, List.any_append, Bool.and_or_distrib_left, Bool.or_assoc]

theorem State.Looked.refl (s : State) : State.Looked r s [] s where
  calls := by simp
  inClass := rfl
  inAnnotated ha := ha
  className := rfl
  decorated := rfl
  skipped := rfl
  untyped _ := by simp

theorem State.Looked.moved (h : State.Looked r s es s') : State.Moved r s es s' where
  inClass := h.inClass
  inAnnotated := h.inAnnotated
  className := by simp [lastEntered_eq_none_iff.2 h.calls, h.className]
  decorated := by simp [lastEntered_eq_none_iff.2 h.calls, h.decorated]
  untyped hc ha := by rw [flagAfter_calls h.calls, h.untyped ha, hc, Bool.true_and]

/-! ## Steps of the pass -/

theorem any_raises_calls (cs : List Call) : (cs.map (Event.call false)).any (Event.raises r) = cs.any r.isUntyped := by
  simp [List.any_map, Function.comp_def, Event.raises]

theorem see_looked (cs : List Call) (s : State) : State.Looked r s (cs.map (.call false)) (s.see r cs) := by
  unfold State.see
  split
  · next h =>
    simp only [Bool.and_eq_true, Bool.not_eq_eq_eq_not, Bool.not_true] at h
    refine ⟨calls_enter_nothing _ _, rfl, id, rfl, rfl, rfl, ?_⟩
    intro _
    rw [any_raises_calls, h.1.1, h.2]
    simp
  · next h =>
    refine ⟨calls_enter_nothing _ _, rfl, id, rfl, rfl, rfl, ?_⟩
    intro ha
    rw [any_raises_calls]
    simp only [ha, Bool.not_false, Bool.and_true, Bool.not_eq_true] at h
    rw [h, Bool.or_false]

theorem seeParts_looked (r : Resolver) (ps : List Part) (s : State) :
    State.Looked r s (partEvents ps) (s.seeParts r ps) := see_looked _ s

theorem seeSmall_looked (x : Small) (s : State) : State.Looked r s x.events (s.seeSmall r x) := by
  cases x with
  | annAssign t h v =>
    refine ⟨calls_enter_nothing _ _, rfl, fun _ => rfl, rfl, rfl, rfl, ?_⟩
    intro _
    simp [Small.events, List.any_map, Function.comp_def, Event.raises, State.seeSmall, Small.isAnnAssign]
  | _ => exact see_looked _ s

theorem item_state {i i' : Item} (h : Pass.Ok (visitItem r i) s i' s') : s' = s.seeSmall r i.stmt := by
  simp only [visitItem, Pass.ok_bind, Pass.ok_modify, Pass.ok_get, Pass.ok_ofExcept] at h
  obtain ⟨u, _, rfl, t, _, ⟨rfl, rfl⟩, y, _, ⟨-, rfl⟩, h⟩ := h
  cases y <;> exact (Pass.ok_pure.1 h).2

theorem items_looked {is is' : List Item} (h : Pass.Ok (visitItems r is) s is' s') :
    State.Looked r s (itemEvents is) s' := by
  induction is generalizing s is' with
  | nil =>
    obtain ⟨-, rfl⟩ := Pass.ok_pure.1 h
    exact .refl _
  | cons i is ih =>
    simp only [visitItems, Pass.ok_bind, Pass.ok_pure] at h
    obtain ⟨i', s₁, hi, is', s₂, his, -, rfl⟩ := h
    have hl := ih his
    rw [item_state hi] at hl
    exact (seeSmall_looked i.stmt s).trans hl

theorem decorator_state {d d' : Decorator} (h : Pass.Ok (visitDecorator r d) s d' s') :
    s' = s.seeParts r [.decorator false d] := by
  simp only [visitDecorator, Pass.ok_bind, Pass.ok_get, see_ok] at h
  obtain ⟨u, _, rfl, t, _, ⟨rfl, rfl⟩, h⟩ := h
  split at h
  · exact (Pass.ok_ofExcept.1 h).2
  · exact (Pass.ok_pure.1 h).2

theorem decorators_looked {ds ds' : List Decorator} (h : Pass.Ok (visitDecorators r ds) s ds' s') :
    State.Looked r s (decoratorEvents ds) s' := by
  induction ds generalizing s ds' with
  | nil =>
    obtain ⟨-, rfl⟩ := Pass.ok_pure.1 h
    exact .refl _
  | cons d ds ih =>
    simp only [visitDecorators, Pass.ok_bind, Pass.ok_pure] at h
    obtain ⟨d', s₁, hd, ds', s₂, hds, -, rfl⟩ := h
    have hl := ih hds
    rw [decorator_state hd] at hl
    have h' := (seeParts_looked r [.decorator false d] s).trans hl
    simpa [decoratorEvents, partEvents] using h'

/-- The decorators of a definition and the rest of its header. -/
theorem header_looked {ds ds' : List Decorator} (h : Pass.Ok (visitDecorators r ds) s ds' s₁) (ps : List Part) :
    State.Looked r s (decoratorEvents ds ++ partEvents ps) (s₁.seeParts r ps) :=
  (decorators_looked h).trans (seeParts_looked r ps s₁)

/-! ## Visits -/

theorem lastEntered_cons_enter (c : ClassDef) (es : List Event) :
    lastEntered (.enter c :: es) = (lastEntered es).or (some c) := lastEntered_append [.enter c] es

theorem flagAfter_cons_enter (b : Bool) (c : ClassDef) (es : List Event) :
    flagAfter r b (.enter c :: es) = flagAfter r false es := rfl

/-- From the entry of a class to its end. -/
theorem State.Moved.of_enter {c : ClassDef} (h : State.Moved r (s.enterClass c) es s') :
    State.Moved r s (.enter c :: es) (s'.leave s.inClass) where
  inClass := rfl
  inAnnotated ha := h.inAnnotated ha
  className := by
    rw [lastEntered_cons_enter]
    refine h.className.trans ?_
    cases lastEntered es <;> rfl
  decorated := by
    rw [lastEntered_cons_enter]
    refine h.decorated.trans ?_
    cases lastEntered es <;> rfl
  untyped _ ha := (h.untyped rfl ha).trans (flagAfter_cons_enter _ _ _).symm

theorem Visit.moved {n n' : Node} {vs : List ClassVisit} (h : Visit r s n n' s' vs) : State.Moved r s n.events s' := by
  induction h with
  | line hi => exact (items_looked hi).moved
  | compound _ ih => exact ih
  | funcDef hd _ ih => exact (header_looked hd _).moved.trans ih
  | @classDef s s₁ s₂ h ds b b' vs v hd _ hv ih =>
    subst hv
    exact .of_enter ((header_looked hd _).moved.trans ih)
  | inline hi => exact (items_looked hi).moved
  | block _ ih => exact ih
  | noClause => exact .refl _
  | @clause s s₁ s' head b b' cs cs' vs vs' _ _ ihb ihc => exact ((seeParts_looked r head.header.parts s).moved.trans ihb).trans ihc
  | noStmt => exact .refl _
  | next _ _ ihx ihxs => exact ihx.trans ihxs

theorem Visit.before_inAnnotated {n n' : Node} {vs : List ClassVisit} (h : Visit r s n n' s' vs)
    (ha : s.inAnnotated = false) : ∀ v ∈ vs, v.before.inAnnotated = false := by
  induction h with
  | line _ | inline _ | noClause | noStmt => simp
  | compound _ ih | block _ ih => exact ih ha
  | funcDef hd _ ih => exact ih ((header_looked hd _).inAnnotated ha)
  | @classDef s s₁ s₂ h ds b b' vs v hd _ hv ih =>
    intro w hw
    rcases List.mem_append.1 hw with hw | hw
    · exact ih ((header_looked hd _).inAnnotated ha) w hw
    · rw [List.mem_singleton.1 hw, hv]
      exact ha
  | @clause s s₁ s' head b b' cs cs' vs vs' hb _ ihb ihc =>
    have ha₁ := (seeParts_looked r head.header.parts s).inAnnotated ha
    intro v hv
    exact (List.mem_append.1 hv).elim (ihb ha₁ v) (ihc (hb.moved.inAnnotated ha₁) v)
  | next hx _ ihx ihxs =>
    intro v hv
    exact (List.mem_append.1 hv).elim (ihx ha v) (ihxs (hx.moved.inAnnotated ha) v)

theorem Visit.classes {n n' : Node} {vs : List ClassVisit} (h : Visit r s n n' s' vs) :
    vs.map ClassVisit.cls = n.classes := by
  induction h with
  | line _ | inline _ | noClause | noStmt => rfl
  | compound _ ih | block _ ih | funcDef _ _ ih => exact ih
  | classDef _ _ hv ih =>
    rw [List.map_append, ih, hv]
    rfl
  | clause _ _ ihb ihc =>
    rw [List.map_append, ihb, ihc]
    rfl
  | next _ _ ihx ihxs =>
    rw [List.map_append, ihx, ihxs]
    rfl

theorem leave_skipped (v : ClassVisit) : v.after.skipped = v.inside.skipped ++ v.warned := by
  unfold ClassVisit.after ClassVisit.warned State.leave
  cases v.inside.untyped <;> simp

/-- The warnings of a visit are those of its classes, one after the other. -/
theorem Visit.skipped {n n' : Node} {vs : List ClassVisit} (h : Visit r s n n' s' vs) :
    s'.skipped = s.skipped ++ vs.flatMap ClassVisit.warned := by
  induction h with
  | line hi | inline hi => simpa using (items_looked hi).skipped
  | noClause | noStmt => simp
  | compound _ ih | block _ ih => exact ih
  | funcDef hd _ ih => rw [ih, (header_looked hd _).skipped]
  | @classDef s s₁ s₂ h ds b b' vs v hd _ hv ih =>
    rw [leave_skipped, List.flatMap_append, List.flatMap_singleton, ← List.append_assoc]
    subst hv
    rw [ih, (header_looked hd _).skipped]
    rfl
  | clause _ _ ihb ihc => rw [ihc, ihb, (seeParts_looked _ _ _).skipped, List.flatMap_append, List.append_assoc]
  | next _ _ ihx ihxs => rw [ihxs, ihx, List.flatMap_append, List.append_assoc]

/-! ## Classes -/

theorem inside_moved {c c' : ClassDef} (h : Pass.Ok (visitInside r c) s c' s') :
    ∃ es, c.events = .enter c :: es ∧ State.Moved r (s.enterClass c) es s' := by
  obtain ⟨ds, s₁, b', hd, hb, -⟩ := inside_ok.1 h
  obtain ⟨vs, hv⟩ := visit_of_ok _ hb
  exact ⟨_, rfl, (header_looked hd _).moved.trans hv.moved⟩

theorem ClassDef.lastEntry (c : ClassDef) : ∃ last post, LastEntry c.events last post := by
  rcases entries_cases c.events with h | h
  · exact absurd (h (.enter c) List.mem_cons_self) (by simp [Event.entered?])
  · exact h

/-- At the end of a class the flag tells about the calls since the last entry, and the name is that of the class entered
last. -/
theorem ClassVisit.Happened.inside_eq {v : ClassVisit} {last : ClassDef} {post : List Event} (h : v.Happened r)
    (ha : v.before.inAnnotated = false) (hl : LastEntry v.cls.events last post) :
    v.inside.untyped = post.any (Event.raises r) ∧ v.inside.className = some last.name := by
  obtain ⟨es, he, hm⟩ := inside_moved h.inside
  constructor
  · rw [hm.untyped rfl ha, ← hl.flag (b := false), he]
    rfl
  · rw [hm.className]
    have hl' := hl.lastEntered
    rw [he, lastEntered_cons_enter] at hl'
    cases hes : AttrsUpgrade.lastEntered es with
    | none =>
      rw [hes] at hl'
      cases hl'
      rfl
    | some c =>
      rw [hes] at hl'
      cases hl'
      rfl

theorem any_raises_iff {post : List Event} :
    post.any (Event.raises r) = true ↔ ∃ c, .call false c ∈ post ∧ r.isUntyped c = true := by
  rw [List.any_eq_true]
  constructor
  · rintro ⟨e, he, hr⟩
    cases e with
    | enter c => simp [Event.raises] at hr
    | call a c =>
      simp only [Event.raises, Bool.and_eq_true, Bool.not_eq_eq_eq_not, Bool.not_true] at hr
      exact ⟨c, hr.1 ▸ he, hr.2⟩
  · rintro ⟨c, hc, hu⟩
    exact ⟨_, hc, by simpa [Event.raises] using hu⟩

/-! ## Main theorem -/

/-- Leaving a class puts it back as it was, and warns about the class entered last in it, if a call that makes a field without
type has been seen since then outside of annotated assignments; otherwise the changes stay and nothing is said. After the
pass, the name and the decorated names are those of the class entered last in the module. -/
theorem put_back_iff_untyped_since_last_entry {m m' : Module} (hc : s.inClass = false) (ha : s.inAnnotated = false)
    (h : (visitModule r m).run.run s = (.ok m', s')) :
    ∃ vs, Visit r s (.stmts m.body) (.stmts m'.body) s' vs ∧ vs.map ClassVisit.cls = m.classes ∧
      (∀ v ∈ vs, v.Happened r ∧ ∃ last post, LastEntry v.cls.events last post ∧
        ((∃ c, .call false c ∈ post ∧ r.isUntyped c) → v.result = v.cls ∧ v.warned = [last.name]) ∧
        (¬(∃ c, .call false c ∈ post ∧ r.isUntyped c) → v.result = v.updated ∧ v.warned = [])) ∧
      s'.skipped = s.skipped ++ vs.flatMap ClassVisit.warned ∧
      s'.inAnnotated = false ∧ s'.inClass = false ∧
      (m.classes = [] ∧ s'.className = s.className ∧ s'.decorated = s.decorated ∨
        ∃ last post, LastEntry (stmtEvents m.body) last post ∧ s'.className = some last.name ∧
          s'.decorated = last.decorated) := by
  obtain ⟨vs, hv, -⟩ := visit_of_module h
  have hm := hv.moved
  refine ⟨vs, hv, hv.classes, ?_, hv.skipped, hm.inAnnotated ha, hm.inClass.trans hc, ?_⟩
  · intro v hvs
    have hh := hv.ok.2 v hvs
    obtain ⟨last, post, hl⟩ := v.cls.lastEntry
    obtain ⟨hu, hn⟩ := hh.inside_eq (hv.before_inAnnotated ha v hvs) hl
    refine ⟨hh, last, post, hl, ?_, ?_⟩
    · intro hex
      have hu' := hu.trans (any_raises_iff.2 hex)
      simp [ClassVisit.result, ClassVisit.warned, hu', hn]
    · intro hno
      have hu' := hu.trans (Bool.eq_false_iff.2 (mt any_raises_iff.1 hno))
      simp [ClassVisit.result, ClassVisit.warned, hu']
  · rcases entries_cases (stmtEvents m.body) with he | ⟨last, post, hl⟩
    · have hle := lastEntered_eq_none_iff.2 he
      refine .inl ⟨(Node.classes_eq_nil_iff (n := .stmts m.body)).2 he, ?_, ?_⟩
      · simpa [Node.events, hle] using hm.className
      · simpa [Node.events, hle] using hm.decorated
    · refine .inr ⟨last, post, hl, ?_, ?_⟩
      · simpa [Node.events, hl.lastEntered] using hm.className
      · simpa [Node.events, hl.lastEntered] using hm.decorated

/-- A class that ends with a field without type, after a class inside it. -/
def endsUntyped : ClassDef where
  head := ⟨[], [], [], "class ", newName "A", none⟩
  body := .block ":\n" "    " [
    .classDef ⟨[], [], [], "class ", newName "B", none⟩ (.inline ": " [⟨.plain .pass [.text "pass"], none⟩] [.newline]),
    .line ⟨[], [⟨.assign [⟨.name (newName "x"), " = "⟩] (.call (.name (newName "ib")) "(" [] ")"), none⟩], [.newline]⟩] []

/-- A module that holds it alone. -/
def endsUntypedModule : Module := ⟨[], [endsUntyped.stmt], [], "    ", "\n", true, 0⟩

/-- What is called `ib` makes a field. -/
def resolveByName : Resolver := ⟨fun c => c.func.name? = some "ib", fun _ => false, none⟩

/-- The outer class is put back, and the warning names the inner one. -/
theorem put_back_ends_untyped :
    let s' : State := ⟨true, some "B", false, [], false, ["B"]⟩
    (visitModule resolveByName endsUntypedModule).run.run .fresh = (.ok endsUntypedModule, s') ∧
    ∃ vs, Visit resolveByName .fresh (.stmts endsUntypedModule.body) (.stmts endsUntypedModule.body) s' vs ∧
      vs.map ClassVisit.cls = endsUntypedModule.classes ∧ vs.flatMap ClassVisit.warned = ["B"] ∧
      s'.className = some "B" := by
  have hrun : (visitModule resolveByName endsUntypedModule).run.run .fresh =
      (.ok endsUntypedModule, ⟨true, some "B", false, [], false, ["B"]⟩) := rfl
  obtain ⟨vs, hv, hc, -, hs, -⟩ := put_back_iff_untyped_since_last_entry rfl rfl hrun
  exact ⟨hrun, vs, hv, hc, hs.symm, rfl⟩

end AttrsUpgrade
