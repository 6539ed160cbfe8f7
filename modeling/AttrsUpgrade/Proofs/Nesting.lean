import AttrsUpgrade.Proofs.Flag
/-!
# Classes inside classes

How the flag at the end of a class hangs together with the calls that belong to the class itself. For a class that holds no
other the two agree (`ClassDef.late_of_leaf`). For one that does, the flag tells about its last class, and about calls after
that one.
-/

namespace AttrsUpgrade

variable {r : Resolver}

namespace ClassDef

/-- Whether the class holds a call that makes a field without type, outside of annotated assignments and of the classes
inside it. -/
def untyped (r : Resolver) (c : ClassDef) : Bool := c.ownCalls.any r.isUntyped

/-- Whether the flag is up at the end of the class. -/
def late (r : Resolver) (c : ClassDef) : Bool := flagAfter r false c.events

/-- The class entered last in the class, which is itself if it holds no other. -/
def last (c : ClassDef) : ClassDef := (lastEntered c.events).getD c

end ClassDef

/-! ## Nodes without classes -/

theorem raises_itemEvents (is : List Item) : (itemEvents is).any (Event.raises r) = (itemCalls is).any r.isUntyped := by
  induction is with
  | nil => rfl
  | cons i is ih =>
    have hx : i.stmt.events.any (Event.raises r) = i.stmt.openCalls.any r.isUntyped := by
      unfold Small.events Small.openCalls
      cases i.stmt.isAnnAssign <;> simp [List.any_map, Function.comp_def, Event.raises]
    simp only [itemEvents, itemCalls, List.flatMap_cons, List.any_append] at ih ⊢
    rw [hx, ih]

theorem raises_partEvents (ps : List Part) :
    (partEvents ps).any (Event.raises r) = (ps.flatMap Part.calls).any r.isUntyped := any_raises_calls _

theorem raises_head (ds : List Decorator) (ps : List Part) :
    (decoratorEvents ds ++ partEvents ps).any (Event.raises r) = (headCalls ds ps).any r.isUntyped := by
  rw [List.any_append, decoratorEvents, raises_partEvents, raises_partEvents, headCalls, List.any_append]

theorem lastEntered_calls_append {es : List Event} (h : ∀ e ∈ es, e.entered? = none) (es' : List Event) :
    lastEntered (es ++ es') = lastEntered es' := by
  rw [lastEntered_append, lastEntered_eq_none_iff.2 h, Option.or_none]

theorem flagAfter_true {es : List Event} (h : ∀ e ∈ es, e.entered? = none) : flagAfter r true es = true := by
  rw [flagAfter_calls h, Bool.true_or]

/-- In a node without classes the flag comes up by the node's own calls. -/
theorem Node.raises_of_leaf {n : Node} (h : n.classes = []) :
    n.events.any (Event.raises r) = n.ownCalls.any r.isUntyped := by
  induction n using Node.induct with
  | line l => exact raises_itemEvents _
  | inline o is t => exact raises_itemEvents _
  | noClause | noStmt => rfl
  | compound cs ih | block o i xs f ih => exact ih h
  | funcDef head b ih =>
    have hb : b.events.any (Event.raises r) = b.ownCalls.any r.isUntyped := ih h
    simp only [Node.events, Stmt.events, Node.ownCalls, Stmt.ownCalls]
    rw [List.any_append, raises_head, hb, List.any_append]
  | classDef head b ih => simp [Node.classes, Stmt.classes] at h
  | clause head b cs ihb ihc =>
    simp only [Node.classes, clauseClasses, List.append_eq_nil_iff] at h
    have hb : b.events.any (Event.raises r) = b.ownCalls.any r.isUntyped := ihb h.1
    have hc : (clauseEvents cs).any (Event.raises r) = (clauseOwnCalls cs).any r.isUntyped := ihc h.2
    simp only [Node.events, clauseEvents, Node.ownCalls, clauseOwnCalls]
    rw [List.any_append, List.any_append, raises_partEvents, hb, hc, List.any_append, List.any_append]
  | next x xs ihx ihxs =>
    simp only [Node.classes, stmtClasses, List.append_eq_nil_iff] at h
    have hx : x.events.any (Event.raises r) = x.ownCalls.any r.isUntyped := ihx h.1
    have hxs : (stmtEvents xs).any (Event.raises r) = (stmtOwnCalls xs).any r.isUntyped := ihxs h.2
    simp only [Node.events, stmtEvents, Node.ownCalls, stmtOwnCalls]
    rw [List.any_append, hx, hxs, List.any_append]

theorem ClassDef.events_eq (c : ClassDef) :
    c.events = .enter c :: ((decoratorEvents c.head.decorators ++ partEvents c.head.rest) ++ c.body.events) := rfl

theorem ClassDef.enters_nothing_of_leaf {c : ClassDef} (h : c.inner = []) :
    ∀ e ∈ (decoratorEvents c.head.decorators ++ partEvents c.head.rest) ++ c.body.events, e.entered? = none :=
  List.forall_mem_append.2 ⟨header_enters_nothing _ _, (Node.classes_eq_nil_iff (n := .suite c.body)).1 h⟩

theorem ClassDef.lastEntered_of_leaf {c : ClassDef} (h : c.inner = []) : lastEntered c.events = some c := by
  rw [c.events_eq, lastEntered_cons_enter, lastEntered_eq_none_iff.2 (c.enters_nothing_of_leaf h)]
  rfl

/-- In a class without classes inside the flag tells about the class itself. -/
theorem ClassDef.late_of_leaf {c : ClassDef} (h : c.inner = []) : c.late r = c.untyped r := by
  have hr : c.body.events.any (Event.raises r) = c.body.ownCalls.any r.isUntyped :=
    Node.raises_of_leaf (n := .suite c.body) h
  rw [ClassDef.late, c.events_eq, flagAfter_cons_enter, flagAfter_calls (c.enters_nothing_of_leaf h), Bool.false_or,
    List.any_append, raises_head, hr, ClassDef.untyped, ClassDef.ownCalls, List.any_append]

/-! ## The class entered last -/

/-- The class entered last is one of the classes, and holds no other. -/
theorem Node.last_mem {n : Node} {d : ClassDef} (h : lastEntered n.events = some d) : d ∈ n.classes ∧ d.inner = [] := by
  induction n using Node.induct with
  | line l =>
    rw [Node.events, Stmt.events, lastEntered_eq_none_iff.2 (items_enter_nothing _)] at h
    cases h
  | inline o is t =>
    rw [Node.events, Suite.events, lastEntered_eq_none_iff.2 (items_enter_nothing _)] at h
    cases h
  | noClause | noStmt => cases h
  | compound cs ih | block o i xs f ih => exact ih h
  | funcDef head b ih =>
    rw [Node.events, Stmt.events, lastEntered_calls_append (header_enters_nothing _ _)] at h
    exact ih h
  | classDef head b ih =>
    rw [Node.events, Stmt.events, lastEntered_cons_enter, lastEntered_calls_append (header_enters_nothing _ _)] at h
    cases hb : lastEntered b.events with
    | none =>
      rw [hb] at h
      cases h
      have hc : b.classes = [] := (Node.classes_eq_nil_iff (n := .suite b)).2 (lastEntered_eq_none_iff.1 hb)
      exact ⟨by simp [Node.classes, Stmt.classes], hc⟩
    | some d' =>
      rw [hb] at h
      cases h
      obtain ⟨hm, hi⟩ := ih hb
      exact ⟨List.mem_append_left _ hm, hi⟩
  | clause head b cs ihb ihc =>
    rw [Node.events, clauseEvents, lastEntered_append, lastEntered_calls_append (parts_enter_nothing _)] at h
    rcases Option.or_eq_some_iff.1 h with h | ⟨-, h⟩
    · exact ⟨List.mem_append_right _ (ihc h).1, (ihc h).2⟩
    · exact ⟨List.mem_append_left _ (ihb h).1, (ihb h).2⟩
  | next x xs ihx ihxs =>
    rw [Node.events, stmtEvents, lastEntered_append] at h
    rcases Option.or_eq_some_iff.1 h with h | ⟨-, h⟩
    · exact ⟨List.mem_append_right _ (ihxs h).1, (ihxs h).2⟩
    · exact ⟨List.mem_append_left _ (ihx h).1, (ihx h).2⟩

/-- If the class entered last is untyped, the flag stays up. -/
theorem Node.flag_of_last {n : Node} {d : ClassDef} (h : lastEntered n.events = some d) (hd : d.untyped r = true) :
    ∀ b, flagAfter r b n.events = true := by
  induction n using Node.induct with
  | line l =>
    rw [Node.events, Stmt.events, lastEntered_eq_none_iff.2 (items_enter_nothing _)] at h
    cases h
  | inline o is t =>
    rw [Node.events, Suite.events, lastEntered_eq_none_iff.2 (items_enter_nothing _)] at h
    cases h
  | noClause | noStmt => cases h
  | compound cs ih | block o i xs f ih => exact ih h
  | funcDef head b ih =>
    rw [Node.events, Stmt.events, lastEntered_calls_append (header_enters_nothing _ _)] at h
    intro b'
    rw [Node.events, Stmt.events, flagAfter_append]
    exact ih h _
  | classDef head b ih =>
    intro b'
    rw [Node.events, Stmt.events, flagAfter_cons_enter]
    cases hb : lastEntered b.events with
    | none =>
      have hc : b.classes = [] := (Node.classes_eq_nil_iff (n := .suite b)).2 (lastEntered_eq_none_iff.1 hb)
      rw [Node.events, Stmt.events, lastEntered_cons_enter, lastEntered_calls_append (header_enters_nothing _ _), hb] at h
      cases h
      rw [← ClassDef.late_of_leaf (c := ⟨head, b⟩) hc] at hd
      exact hd
    | some d' =>
      rw [Node.events, Stmt.events, lastEntered_cons_enter, lastEntered_calls_append (header_enters_nothing _ _), hb] at h
      cases h
      rw [flagAfter_append]
      exact ih hb _
  | clause head b cs ihb ihc =>
    intro b'
    rw [Node.events, clauseEvents, lastEntered_append, lastEntered_calls_append (parts_enter_nothing _)] at h
    rw [Node.events, clauseEvents, flagAfter_append, flagAfter_append]
    rcases Option.or_eq_some_iff.1 h with h | ⟨hn, h⟩
    · exact ihc h _
    · have hb : flagAfter r (flagAfter r b' (partEvents head.header.parts)) b.events = true := ihb h _
      rw [hb]
      exact flagAfter_true (lastEntered_eq_none_iff.1 hn)
  | next x xs ihx ihxs =>
    intro b'
    rw [Node.events, stmtEvents, lastEntered_append] at h
    rw [Node.events, stmtEvents, flagAfter_append]
    rcases Option.or_eq_some_iff.1 h with h | ⟨hn, h⟩
    · exact ihxs h _
    · have hx : flagAfter r b' x.events = true := ihx h _
      rw [hx]
      exact flagAfter_true (lastEntered_eq_none_iff.1 hn)

/-! ## Where the flag comes from -/

/-- What has raised the flag at the end of events, which hold the classes `cs` and, outside of them, the calls `own`: it was
up before and no class is entered; or a call outside of the classes did, or an untyped class that holds others or was
entered last. -/
def FlagSource (r : Resolver) (b : Bool) (es : List Event) (cs : List ClassDef) (own : List Call) : Prop :=
  cs = [] ∧ b = true ∨ own.any r.isUntyped = true ∨
    ∃ d ∈ cs, d.untyped r = true ∧ (d.inner ≠ [] ∨ lastEntered es = some d)

theorem FlagSource.of_calls {b : Bool} {es : List Event} {own : List Call} (hes : ∀ e ∈ es, e.entered? = none)
    (ho : es.any (Event.raises r) = own.any r.isUntyped) (h : flagAfter r b es = true) : FlagSource r b es [] own := by
  rw [flagAfter_calls hes, Bool.or_eq_true, ho] at h
  exact h.imp (⟨rfl, ·⟩) .inl

theorem FlagSource.append {b : Bool} {es es' : List Event} {cs cs' : List ClassDef} {own own' : List Call}
    (h : flagAfter r b es = true → FlagSource r b es cs own) (h' : FlagSource r (flagAfter r b es) es' cs' own')
    (hn : cs' = [] → ∀ e ∈ es', e.entered? = none) : FlagSource r b (es ++ es') (cs ++ cs') (own ++ own') := by
  rw [FlagSource, lastEntered_append, List.any_append, Bool.or_eq_true]
  rcases h' with ⟨rfl, hf⟩ | ho | ⟨d, hd, hu, hd'⟩
  · rw [List.append_nil, lastEntered_eq_none_iff.2 (hn rfl), Option.none_or]
    exact (h hf).imp_right (Or.imp_left .inl)
  · exact .inr (.inl (.inr ho))
  · exact .inr (.inr ⟨d, List.mem_append_right _ hd, hu, hd'.imp_right (by simp [·])⟩)

theorem Node.flag_source {n : Node} :
    ∀ {b}, flagAfter r b n.events = true → FlagSource r b n.events n.classes n.ownCalls := by
  induction n using Node.induct with
  | line l | inline o is t => exact FlagSource.of_calls (items_enter_nothing _) (raises_itemEvents _)
  | noClause | noStmt =>
    intro b h
    exact .inl ⟨rfl, h⟩
  | compound cs ih | block o i xs f ih => exact ih
  | funcDef head b ih =>
    intro b' h
    rw [Node.events, Stmt.events, flagAfter_append] at h
    exact FlagSource.append (FlagSource.of_calls (header_enters_nothing _ _) (raises_head _ _)) (ih h)
      (Node.classes_eq_nil_iff (n := .suite b)).1
  | classDef head b ih =>
    intro b' h
    rw [Node.events, Stmt.events, flagAfter_cons_enter] at h
    have hs : FlagSource r false (decoratorEvents head.decorators ++ partEvents head.rest ++ b.events) ([] ++ b.classes)
        (headCalls head.decorators head.rest ++ b.ownCalls) := by
      rw [flagAfter_append] at h
      exact FlagSource.append (FlagSource.of_calls (header_enters_nothing _ _) (raises_head _ _)) (ih h)
        (Node.classes_eq_nil_iff (n := .suite b)).1
    refine .inr (.inr ?_)
    rcases hs with ⟨-, hf⟩ | ho | ⟨d, hd, hu, hd'⟩
    · cases hf
    · -- the class itself is untyped: it holds others, or is entered last
      refine ⟨⟨head, b⟩, List.mem_append_right _ (List.mem_singleton.2 rfl), ho, ?_⟩
      by_cases hb : b.classes = []
      · exact .inr (ClassDef.lastEntered_of_leaf (c := ⟨head, b⟩) hb)
      · exact .inl hb
    · refine ⟨d, List.mem_append_left _ hd, hu, hd'.imp_right fun hl => ?_⟩
      rw [Node.events, Stmt.events, lastEntered_cons_enter, hl]
      rfl
  | clause head b cs ihb ihc =>
    intro b' h
    rw [Node.events, clauseEvents, flagAfter_append] at h
    have hb : flagAfter r b' (partEvents head.header.parts ++ b.events) = true →
        FlagSource r b' (partEvents head.header.parts ++ b.events) ([] ++ b.classes)
          (head.header.parts.flatMap Part.calls ++ b.ownCalls) := by
      intro hf
      rw [flagAfter_append] at hf
      exact FlagSource.append (FlagSource.of_calls (parts_enter_nothing _) (raises_partEvents _)) (ihb hf)
        (Node.classes_eq_nil_iff (n := .suite b)).1
    exact FlagSource.append hb (ihc h) (Node.classes_eq_nil_iff (n := .clauses cs)).1
  | next x xs ihx ihxs =>
    intro b' h
    rw [Node.events, stmtEvents, flagAfter_append] at h
    exact FlagSource.append ihx (ihxs h) (Node.classes_eq_nil_iff (n := .stmts xs)).1

/-! ## Classes in their module -/

/-- What is inside a class of a node is in the node. -/
theorem Node.inner_subset {n : Node} {c : ClassDef} (h : c ∈ n.classes) : c.inner ⊆ n.classes := by
  induction n using Node.induct with
  | line l | inline o is t | noClause | noStmt => cases h
  | compound cs ih | block o i xs f ih | funcDef head b ih => exact ih h
  | classDef head b ih =>
    refine fun d hd => List.mem_append_left _ ?_
    rcases List.mem_append.1 h with h | h
    · exact ih h hd
    · rw [List.mem_singleton.1 h] at hd
      exact hd
  | clause head b cs ihb ihc =>
    rcases List.mem_append.1 h with h | h
    · exact fun d hd => List.mem_append_left _ (ihb h hd)
    · exact fun d hd => List.mem_append_right _ (ihc h hd)
  | next x xs ihx ihxs =>
    rcases List.mem_append.1 h with h | h
    · exact fun d hd => List.mem_append_left _ (ihx h hd)
    · exact fun d hd => List.mem_append_right _ (ihxs h hd)

/-- A class of a module with all classes in it. -/
theorem Module.classes_subset {m : Module} {c : ClassDef} (h : c ∈ m.classes) : c.stmt.classes ⊆ m.classes := by
  intro d hd
  rcases List.mem_append.1 hd with hd | hd
  · exact Node.inner_subset (n := .stmts m.body) h hd
  · exact List.mem_singleton.1 hd ▸ h

theorem ClassDef.lastEntered_eq (c : ClassDef) : lastEntered c.events = some c.last := by
  obtain ⟨d, post, h⟩ := c.lastEntry
  rw [ClassDef.last, h.lastEntered]
  rfl

theorem ClassDef.last_mem (c : ClassDef) : c.last ∈ c.stmt.classes ∧ c.last.inner = [] :=
  Node.last_mem (n := .stmt c.stmt) c.lastEntered_eq

theorem ClassDef.last_of_leaf {c : ClassDef} (h : c.inner = []) : c.last = c :=
  Option.some.inj (c.lastEntered_eq.symm.trans (c.lastEntered_of_leaf h))

theorem ClassDef.late_of_last {c : ClassDef} (h : c.last.untyped r = true) : c.late r = true :=
  Node.flag_of_last (n := .stmt c.stmt) c.lastEntered_eq h false

theorem ClassDef.late_source {c : ClassDef} (h : c.late r = true) :
    ∃ d ∈ c.stmt.classes, d.untyped r = true ∧ (d.inner ≠ [] ∨ c.last = d) := by
  rcases Node.flag_source (n := .stmt c.stmt) h with ⟨-, hf⟩ | ho | ⟨d, hd, hu, hd'⟩
  · cases hf
  · cases ho
  · exact ⟨d, hd, hu, hd'.imp_right fun hl => Option.some.inj (c.lastEntered_eq.symm.trans hl)⟩

end AttrsUpgrade
