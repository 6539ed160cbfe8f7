import AttrsUpgrade.Proofs.FieldNames
import AttrsUpgrade.Proofs.Grown
import AttrsUpgrade.Proofs.Undone
/-!
# Modules that a run has settled

A second run finds the module that the first one wrote. If that is settled, which is to say that nothing is left to replace, that
its imports are in use and that it does not refer to what a run would have it import besides (`Module.Settled`), the second run
gives it back as it is, but for one thing: where the imports asked for take a line of their own, an empty line is left of that
unless there is one already (`settled_module_kept_iff`). At the top of a text there never is one, for the lines there are read
as a header of the module; so a module whose imports would come first grows with every run.
-/

namespace AttrsUpgrade

/-! ## References -/

/-- The exported names and those in quoted annotations, none where they cannot be told. -/
def Module.mentioned (m : Module) : List String :=
  m.exports.toOption.getD [] ++ (m.quotedNames m.table).toOption.getD []

/-- Whether a name is mentioned, or is the path of some access or a beginning of it. -/
def Module.Refers (m : Module) (name : String) : Prop := name ∈ m.mentioned ∨ ∃ x ∈ m.table.accesses, name ∈ x.paths

instance (m : Module) (name : String) : Decidable (m.Refers name) := inferInstanceAs (Decidable (_ ∨ _))

/-- What decides whether imports of the module are in use. -/
def Module.usage (m : Module) : Usage := ⟨m.table, m.mentioned⟩

theorem Table.accessed_mem (t : Table) (x : Access) (h : t.accessed x ≠ "") : t.accessed x ∈ x.paths := by
  unfold Table.accessed at h ⊢
  cases hf : x.paths.find? fun p => !(t.lookup x.scope p).isEmpty with
  | some p => exact List.mem_of_find?_eq_some hf
  | none =>
    cases hl : x.paths.getLast? with
    | some p => exact List.mem_of_getLast? hl
    | none => simp [hf, hl] at h

theorem Table.access_of_importInUse {t : Table} {s : Scope} {name : String} (hname : name ≠ "")
    (h : t.importInUse s name = true) : ∃ x ∈ t.accesses, name ∈ x.paths := by
  obtain ⟨a, ha, hused⟩ := List.any_eq_true.1 h
  obtain ⟨x, hx, href⟩ := List.any_eq_true.1 (Bool.and_eq_true_iff.1 hused).2
  have haccessed : t.accessed x = name := by
    rw [← (Table.mem_lookup ha).2, Table.name_of_references (List.contains_iff_mem.1 href)]
  exact ⟨x, hx, haccessed ▸ t.accessed_mem x (haccessed ▸ hname)⟩

/-- The small statements that are no imports. -/
def otherSmalls : Gather Small where
  small _ x := if x.isImport then [] else [x]
  func _ _ := []
  cls _ _ := []
  head _ _ := []

/-- Imports export nothing. -/
theorem Module.exports_eq (m : Module) : m.exports = exportsOfAll (m.gather otherSmalls) := by
  have hfilter : ∀ xs : List Small, exportsOfAll (xs.filter fun x => !x.isImport) = exportsOfAll xs := by
    intro xs
    induction xs with
    | nil => rfl
    | cons x xs ih =>
      rw [List.filter_cons]
      cases hx : x.isImport with
      | false =>
        simp only [Bool.not_false, if_true, exportsOfAll, ih]
      | true =>
        have hnone : x.exportedStrings = .ok [] := by
          cases x with
          | importNames | importFrom => rfl
          | _ => cases hx
        simp only [Bool.not_true, Bool.false_eq_true, if_false, ih, exportsOfAll, hnone, textsOf, List.nil_append]
        cases exportsOfAll xs <;> rfl
  have hR : Piecewise fun (xs : List (Scope × Small)) (ys : List Small) =>
      (xs.map Prod.snd).filter (fun x => !x.isImport) = ys :=
    ⟨rfl, fun h h' => by rw [List.map_append, List.filter_append, h, h']⟩
  have hgather : ((m.gather placedSmalls).map Prod.snd).filter (fun x => !x.isImport) = m.gather otherSmalls := by
    refine Node.gather_related hR ⟨fun _ _ => rfl, fun _ _ => rfl, fun _ _ => rfl⟩ (fun s x => ?_) (.stmts m.body) []
    simp only [placedSmalls, otherSmalls, List.map_singleton, List.filter_singleton]
    cases x.isImport <;> rfl
  rw [Module.exports, m.smalls_eq, ← hfilter, hgather]

/-- The types written as text. -/
def quoting (inside : Expr → Bool) : Gather LiteralResult where
  small _ x := (Part.small x).quoted inside
  func _ h := h.parts.flatMap (Part.quoted inside)
  cls _ h := h.parts.flatMap (Part.quoted inside)
  head _ h := h.parts.flatMap (Part.quoted inside)

theorem Node.gather_quoting (inside : Expr → Bool) (n : Node) :
    ∀ s, n.gather (quoting inside) s = n.parts.flatMap (Part.quoted inside) := by
  have hitems : ∀ is : List Item, (is.flatMap fun i => (Part.small i.stmt).quoted inside) =
      (is.map fun i => Part.small i.stmt).flatMap (Part.quoted inside) := fun is => (List.flatMap_map _ _ is).symm
  induction n using Node.induct with
  | line l => exact fun s => hitems l.items
  | inline o is t => exact fun s => hitems is
  | compound cs ih | block o i xs f ih => exact ih
  | funcDef h b ih | classDef h b ih =>
    intro s
    rw [Node.parts, Stmt.parts, List.flatMap_append]
    exact congrArg (_ ++ ·) (ih (h.frame :: s))
  | noClause | noStmt => exact fun _ => rfl
  | clause head b cs ihb ihc =>
    intro s
    rw [Node.parts, clauseParts, Clause.parts, List.flatMap_append, List.flatMap_append]
    exact congrArg₂ (· ++ ·) (congrArg (_ ++ ·) (ihb s)) (ihc s)
  | next x xs ihx ihxs =>
    intro s
    rw [Node.parts, stmtParts, List.flatMap_append]
    exact congrArg₂ (· ++ ·) (ihx s) (ihxs s)

theorem Module.quotedNames_eq (m : Module) (t : Table) : m.quotedNames t = namesOfAll (m.gather (quoting t.isTypeVariable)) :=
  congrArg namesOfAll (Node.gather_quoting _ (.stmts m.body) []).symm

theorem Table.Beside.isTypeVariable_eq {t t' : Table} (h : t.Beside t') : t'.isTypeVariable = t.isTypeVariable := by
  funext e
  unfold Table.isTypeVariable Table.qualifiedNamesOf
  rw [h.sites]
  split
  · split
    · exact h.contains_namesOf _ e (by decide)
    · rfl
  · rfl

theorem otherSmalls_importless : otherSmalls.Importless := by
  intro s x hx
  simp [otherSmalls, hx]

theorem quoting_importless (inside : Expr → Bool) : (quoting inside).Importless := by
  intro s x hx
  cases x with
  | importNames | importFrom => rfl
  | _ => cases hx

theorem Module.Uses.usage_eq {m : Module} {u : Usage} (h : m.Uses u) : u = m.usage := by
  obtain ⟨exported, quoted, hexported, hquoted, hmentioned⟩ := h.mentioned
  have htable : u.table = m.table := Module.table_of_scan h.table
  rw [htable] at hquoted
  obtain ⟨table, mentioned⟩ := u
  simp only at htable hmentioned
  rw [Module.usage, Module.mentioned, hexported, hquoted, htable, hmentioned]
  rfl

/-- Imports are neither exported nor quoted. -/
theorem Module.mentioned_eq {m m' : Module} (hother : m.gather otherSmalls = m'.gather otherSmalls)
    (hquoting : ∀ inside, m.gather (quoting inside) = m'.gather (quoting inside)) (hb : m.table.Beside m'.table) :
    m'.mentioned = m.mentioned := by
  rw [Module.mentioned, Module.mentioned, m.exports_eq, m'.exports_eq, m.quotedNames_eq, m'.quotedNames_eq,
    hb.isTypeVariable_eq, hother, hquoting]

section
variable {m m' : Module} {u : Usage} (hu : m'.Uses u) {needs : List Need} (ha : m.addImports needs = .ok m')
include hu ha

theorem Module.Uses.mentioned_eq (hb : m.table.Beside m'.table) : u.mentioned = m.mentioned := by
  rw [hu.usage_eq]
  exact Module.mentioned_eq (addImports_importless otherSmalls_importless ⟨fun _ _ _ => rfl, fun _ _ _ => rfl⟩ ha)
    (fun _ => addImports_importless (quoting_importless _) ⟨fun _ _ _ => rfl, fun _ _ _ => rfl⟩ ha) hb

/-- Where imports were added and the table did not change beyond them, what is in use was referred to before. -/
theorem Module.Uses.refers (hb : m.table.Beside m'.table) {s : Scope} {name : String} (hname : name ≠ "")
    (h : u.inUse s name = true) : m.Refers name := by
  rw [Usage.inUse, Bool.or_eq_true, hu.mentioned_eq ha hb, hu.usage_eq] at h
  rcases h with h | h
  · exact .inl (List.contains_iff_mem.1 h)
  · -- it is accessed, and the accesses have the same paths as before
    obtain ⟨x, hx, hpath⟩ := Table.access_of_importInUse hname h
    have hpaths : x.paths ∈ m.table.accesses.map Access.paths := hb.accesses ▸ List.mem_map_of_mem hx
    obtain ⟨x', hx', hsame⟩ := List.mem_map.1 hpaths
    exact .inr ⟨x', hx', hsame ▸ hpath⟩

variable {names : List String} {c k : Nat} (hg : m.table.Grown names c k m'.table) (hnames : ∀ name ∈ names, ¬m.Refers name)
include hg hnames

/-- What was in use stays in use beside new names that nothing refers to. -/
theorem Module.Uses.inUse {s : Scope} {name : String} (h : m.usage.inUse s name = true) : u.inUse s name = true := by
  rw [Usage.inUse, Bool.or_eq_true] at h ⊢
  refine h.imp (fun hmentioned => ?_) fun hused => ?_
  · rw [hu.mentioned_eq ha hg.beside]
    exact hmentioned
  · rw [hu.usage_eq]
    exact hg.importInUse (fun x hx p hp hpn => hnames p hpn (.inr ⟨x, hx, hp⟩)) hused

theorem Module.Uses.drops {s : Scope} {removable : List String} {a : Alias} (h : m.usage.drops s removable a = false) :
    u.drops s removable a = false := by
  by_cases hmay : (a.asName.isNone && removable.contains a.path) = true
  · rw [Usage.drops, hmay, Bool.true_and, Bool.not_eq_false'] at h ⊢
    exact hu.inUse ha hg hnames h
  · rw [Usage.drops, Bool.eq_false_iff.2 hmay, Bool.false_and]

theorem Module.Uses.isKept {s : Scope} {x : Small} (h : x.isKept m.usage s = true) : x.isKept u s = true := by
  cases x with
  | importNames opening as =>
    simp only [Small.isKept, List.all_eq_true, Bool.not_eq_true'] at h ⊢
    exact fun a hmem => hu.drops ha hg hnames (h a hmem)
  | importFrom f =>
    simp only [Small.isKept] at h ⊢
    split
    · next source parens as habs himp =>
      simp only [habs, himp, List.all_eq_true, Bool.not_eq_true'] at h ⊢
      exact fun a hmem => hu.drops ha hg hnames (h a hmem)
    · rfl
  | _ => rfl

end

/-! ## Nothing to replace -/

section
variable {r : Resolver}

/-- A part without field calls that is no class decorator. -/
def Part.Spared (r : Resolver) (p : Part) : Prop :=
  (∀ c ∈ p.calls, r.isField c = false) ∧ ∀ d ∈ p.decorator?, r.isClassDecorator d.expr = false

theorem itemEdit_spared {i i' : Item} (h : ItemEdit r i i') (hi : (Part.small i.stmt).Spared r) : i' = i := by
  rcases h with h | h
  · exact h
  · -- what is replaced assigns a field call, and that would be one of the calls of the part
    obtain ⟨value, hvalue, c, hc, hfield⟩ := h.old
    have hexpr : (false, value) ∈ i.stmt.exprs := by
      cases hs : i.stmt with
      | assign targets v =>
        rw [hs] at hvalue
        cases hvalue
        simp [Small.exprs]
      | annAssign target hint v =>
        rw [hs] at hvalue
        obtain ⟨a, rfl, rfl⟩ := Option.map_eq_some_iff.1 hvalue
        simp [Small.exprs]
      | _ =>
        rw [hs] at hvalue
        cases hvalue
    have hcall : c ∈ (Part.small i.stmt).calls := List.mem_flatMap.2 ⟨_, hexpr, Expr.call?_mem_calls hc⟩
    rw [hi.1 c hcall] at hfield
    cases hfield

theorem itemEdits_spared {is is' : List Item} (h : List.Forall₂ (ItemEdit r) is is')
    (hi : ∀ p ∈ is.map fun i => Part.small i.stmt, p.Spared r) : is' = is := by
  induction h with
  | nil => rfl
  | cons hx _ ih =>
    rw [List.map_cons, List.forall_mem_cons] at hi
    rw [itemEdit_spared hx hi.1, ih hi.2]

theorem decoratorEdits_spared {ds ds' : List Decorator} (h : List.Forall₂ (DecoratorEdit r) ds ds') {b : Bool}
    (hd : ∀ p ∈ ds.map (Part.decorator b), p.Spared r) : ds' = ds := by
  induction h with
  | nil => rfl
  | @cons d d' ds ds' hx _ ih =>
    rw [List.map_cons, List.forall_mem_cons] at hd
    rw [ih hd.2]
    rcases hx with rfl | hx
    · rfl
    · have hnone := hd.1.2 d rfl
      rw [hx.old] at hnone
      cases hnone

mutual

/-- The parts of a statement that do not stand in a class that is put back. -/
def Stmt.openParts (r : Resolver) : Stmt → List Part
  | .line l => l.items.map fun i => .small i.stmt
  | .compound cs => clauseOpenParts r cs
  | .funcDef h b => h.parts ++ b.openParts r
  | .classDef h b => if ClassDef.late r ⟨h, b⟩ then [] else h.parts ++ b.openParts r

def clauseOpenParts (r : Resolver) : List Clause → List Part
  | [] => []
  | ⟨head, b⟩ :: cs => head.header.parts ++ b.openParts r ++ clauseOpenParts r cs

def Suite.openParts (r : Resolver) : Suite → List Part
  | .inline _ is _ => is.map fun i => .small i.stmt
  | .block _ _ xs _ => stmtOpenParts r xs

def stmtOpenParts (r : Resolver) : List Stmt → List Part
  | [] => []
  | x :: xs => x.openParts r ++ stmtOpenParts r xs

end

def Node.openParts (r : Resolver) : Node → List Part
  | .stmt x => x.openParts r
  | .stmts xs => stmtOpenParts r xs
  | .clauses cs => clauseOpenParts r cs
  | .suite b => b.openParts r

/-- Where there is nothing to replace outside of classes that are put back, a visit changes nothing. -/
theorem Visit.eq_of_spared {s s' : State} {n n' : Node} {vs : List ClassVisit} (h : Visit r s n n' s' vs)
    (ha : s.inAnnotated = false) (hn : ∀ p ∈ n.openParts r, p.Spared r) : n' = n := by
  induction h with
  | line hi => rw [itemEdits_spared (items_edit hi) hn]
  | inline hi => rw [itemEdits_spared (items_edit hi) hn]
  | compound _ ih =>
    cases ih ha hn
    rfl
  | block _ ih =>
    cases ih ha hn
    rfl
  | @funcDef s s₁ s' head ds b b' vs hd _ ih =>
    have hn : ∀ p ∈ head.parts ++ b.openParts r, p.Spared r := hn
    rw [List.forall_mem_append, FuncHead.parts, List.append_assoc, List.forall_mem_append] at hn
    cases ih ((header_looked hd head.rest).inAnnotated ha) hn.2
    rw [decoratorEdits_spared (decorators_edit hd) hn.1.1]
  | @classDef s s₁ s₂ head ds b b' vs v hd hb hv ih =>
    have hlate := ((Visit.classDef hd hb hv).inside_late ha v (by simp)).1
    subst hv
    cases hu : s₂.untyped with
    | true =>
      -- put back, whatever was replaced in it
      rw [ClassVisit.result, if_pos hu]
      rfl
    | false =>
      rw [ClassVisit.result, if_neg (by simp [hu])]
      have hopen : ClassDef.late r ⟨head, b⟩ = false := hlate.symm.trans hu
      have hparts : Stmt.openParts r (.classDef head b) = head.parts ++ b.openParts r := by
        rw [Stmt.openParts, hopen, if_neg Bool.false_ne_true]
      have hn : ∀ p ∈ Stmt.openParts r (.classDef head b), p.Spared r := hn
      rw [hparts, List.forall_mem_append, ClassHead.parts, List.forall_mem_append] at hn
      cases ih ((header_looked hd head.rest).inAnnotated ha) hn.2
      rw [decoratorEdits_spared (decorators_edit hd) hn.1.1]
      rfl
  | noClause | noStmt => rfl
  | @clause s s₁ s' head b b' cs cs' vs vs' hb _ ihb ihc =>
    have hn : ∀ p ∈ (head.header.parts ++ b.openParts r) ++ clauseOpenParts r cs, p.Spared r := hn
    rw [List.forall_mem_append, List.forall_mem_append] at hn
    have hseen := (seeParts_looked r head.header.parts s).inAnnotated ha
    cases ihb hseen hn.1.2
    cases ihc (hb.moved.inAnnotated hseen) hn.2
    rfl
  | @next s s₁ s' x x' xs xs' vs vs' hx _ ihx ihxs =>
    have hn : ∀ p ∈ x.openParts r ++ stmtOpenParts r xs, p.Spared r := hn
    rw [List.forall_mem_append] at hn
    cases ihx ha hn.1
    cases ihxs (hx.moved.inAnnotated ha) hn.2
    rfl

end

/-! ## Settled modules -/

/-- A module in which nothing outside of classes that are put back can be replaced, the imports that may go are in use, and what
is missing is not referred to. If names are missing, the imports from the package stand at the top level. -/
structure Module.Settled (m : Module) : Prop where
  spared : ∀ p ∈ (Node.stmts m.body).openParts (m.table.resolver m), p.Spared (m.table.resolver m)
  kept : ∀ y ∈ m.gather placedSmalls, y.2.isKept m.usage y.1 = true
  unused : ∀ name ∈ m.missing.names, ¬m.Refers name
  top : ∀ y ∈ m.gather placedSmalls, y.2.fromPackage = true → m.missing.objects = [] ∨ y.1 = []

instance (r : Resolver) (p : Part) : Decidable (p.Spared r) := inferInstanceAs (Decidable (_ ∧ _))

instance (m : Module) : Decidable m.Settled :=
  decidable_of_iff ((∀ p ∈ (Node.stmts m.body).openParts (m.table.resolver m), p.Spared (m.table.resolver m)) ∧
      (∀ y ∈ m.gather placedSmalls, y.2.isKept m.usage y.1 = true) ∧ (∀ name ∈ m.missing.names, ¬m.Refers name) ∧
      ∀ y ∈ m.gather placedSmalls, y.2.fromPackage = true → m.missing.objects = [] ∨ y.1 = [])
    ⟨fun ⟨hs, hk, hu, ht⟩ => ⟨hs, hk, hu, ht⟩, fun ⟨hs, hk, hu, ht⟩ => ⟨hs, hk, hu, ht⟩⟩

theorem object_mem_needs_name {m : Module} {name : String} (h : .object name ∈ m.needs) :
    '.' ∉ name.toList ∧ name ≠ "" ∧ name ∈ removableNames packageName := by
  rcases object_mem_needs h with rfl | rfl | ⟨rfl, -⟩ <;> decide

/-- Of a settled module only an empty line is left of what a run does to it, and nothing if no line was added. -/
theorem Stages.out_settled {m visited added out : Module} {u : Usage} (h : Stages (m.table.resolver m) m visited added out u)
    (hm : m.Settled) (hf : stmtsFilled m.body) : out = if m.addsLine then m.spaced else m := by
  -- the pass has nothing to replace
  obtain ⟨state, vs, hvisit⟩ := h.visit
  have hvisited : visited = m := by
    rw [h.visited_eq, Node.stmts.inj (hvisit.eq_of_spared rfl hm.spared)]
  have hadded := h.added_ok
  rw [hvisited] at hadded
  have hobject : ∀ name ∈ m.missing.objects, '.' ∉ name.toList ∧ name ≠ "" ∧ name ∈ removableNames packageName :=
    fun name hname => object_mem_needs_name (mem_missing_objects.1 hname).1
  obtain ⟨c, k, hgrown⟩ := addImports_grown hadded (fun name hname => (hobject name hname).1)
    fun y hy hfrom => (hm.top y hy hfrom).imp_left List.map_eq_nil_iff.2
  -- what was added is not in use, for nothing referred to it, and what was there still is
  have hunused : ∀ name ∈ m.missing.names, name ≠ "" → u.inUse [] name = false := by
    intro name hname hne
    rw [Bool.eq_false_iff]
    exact fun hu => hm.unused name hname (h.uses.refers hadded hgrown.beside hne hu)
  have hkept : ∀ y ∈ m.gather placedSmalls, y.2.isKept u y.1 = true :=
    fun y hy => h.uses.isKept hadded hgrown hm.unused (hm.kept y hy)
  rw [h.out_eq]
  refine addImports_undone hadded (fun y hy => ⟨hkept y hy, hm.top y hy⟩) (fun hp => ?_) (fun name hname => ?_) hf
  · exact hunused packageName (List.mem_append_left _ (by simp [hp])) (by decide)
  · obtain ⟨-, hne, hremovable⟩ := hobject name hname
    exact ⟨hremovable, hunused name (List.mem_append_right _ hname) hne⟩

/-! ## Texts -/

/-- Whether statements begin with an empty line that is no comment, or there are none. -/
def isApart : List Stmt → Bool
  | [] => true
  | x :: _ => x.leading.head?.any fun l => !l.hasComment

/-- Whether the statements after the place of the imports are set apart. -/
def Module.isApart (m : Module) : Bool := AttrsUpgrade.isApart (m.body.drop (importPlace m.body))

/-- The text up to the place of the imports. -/
def Module.linesBefore (m : Module) : String :=
  writeAll ⟨"", m.newline⟩ m.header ++ writeStmts ⟨"", m.newline⟩ (m.body.take (importPlace m.body))

/-- The text after the place of the imports. -/
def Module.linesAfter (m : Module) : String :=
  writeStmts ⟨"", m.newline⟩ (m.body.drop (importPlace m.body)) ++ writeAll ⟨"", m.newline⟩ m.footer

theorem writeStmts_append (l : Layout) (xs ys : List Stmt) : writeStmts l (xs ++ ys) = writeStmts l xs ++ writeStmts l ys := by
  induction xs with
  | nil => simp [writeStmts]
  | cons x xs ih => rw [List.cons_append, writeStmts, ih, writeStmts, String.append_assoc]

/-- An empty line before a statement is written before it. -/
theorem Stmt.write_setLeading {x : Stmt} (hx : x.Filled) (l : Layout) :
    (x.setLeading ([.newline] :: x.leading)).write l = l.newline ++ x.write l := by
  cases x with
  | line => simp [Stmt.setLeading, Stmt.leading, Stmt.write, Line.print, Span.write, SpanPart.write]
  | funcDef => simp [Stmt.setLeading, Stmt.leading, Stmt.write, FuncHead.print, Span.write, SpanPart.write, String.append_assoc]
  | classDef => simp [Stmt.setLeading, Stmt.leading, Stmt.write, ClassHead.print, Span.write, SpanPart.write, String.append_assoc]
  | compound cs =>
    cases cs with
    | nil => exact absurd rfl hx.1
    | cons c cs =>
      obtain ⟨⟨leading, header⟩, b⟩ := c
      simp [Stmt.setLeading, Stmt.leading, Stmt.write, writeClauses, Clause.write, ClauseHead.print, Span.write, SpanPart.write,
        String.append_assoc]

theorem writeStmts_setApart (l : Layout) {xs : List Stmt} (h : stmtsFilled xs) :
    writeStmts l (setApart xs) = (if isApart xs then "" else l.newline) ++ writeStmts l xs := by
  cases xs with
  | nil => rfl
  | cons x xs =>
    have hx := Stmt.write_setLeading h.1 l
    -- an empty line is put before the statement unless its first one is there and holds no comment
    cases hlines : x.leading with
    | nil =>
      rw [hlines] at hx
      simp [setApart, isApart, hlines, writeStmts, hx, String.append_assoc]
    | cons line lines =>
      rw [hlines] at hx
      cases hc : line.hasComment with
      | true => simp [setApart, isApart, hlines, hc, writeStmts, hx, String.append_assoc]
      | false => simp [setApart, isApart, hlines, hc]

theorem Module.lines_split (m : Module) : m.lines = m.linesBefore ++ m.linesAfter := by
  rw [Module.lines, Module.linesBefore, Module.linesAfter]
  conv_lhs => rw [← List.take_append_drop (importPlace m.body) m.body, writeStmts_append]
  simp only [String.append_assoc]

theorem Module.spaced_lines {m : Module} (h : stmtsFilled m.body) :
    m.spaced.lines = m.linesBefore ++ (if m.isApart then "" else m.newline) ++ m.linesAfter := by
  have hdrop : stmtsFilled (m.body.drop (importPlace m.body)) :=
    stmtsFilled_iff.2 fun x hx => stmtsFilled_iff.1 h x (List.mem_of_mem_drop hx)
  have hgap : writeStmts ⟨"", m.newline⟩ (setApart (m.body.drop (importPlace m.body))) =
      (if m.isApart then "" else m.newline) ++ writeStmts ⟨"", m.newline⟩ (m.body.drop (importPlace m.body)) :=
    writeStmts_setApart _ hdrop
  simp only [Module.lines, Module.spaced, Module.linesBefore, Module.linesAfter, writeStmts_append, hgap, String.append_assoc]

theorem Text.firstNewline_mem (cs : List Char) : Text.firstNewline cs ∈ ["\n", "\r\n", "\r"] := by
  have htake : ∀ {cs nl rest}, Text.takeNewline? cs = some (nl, rest) → String.ofList nl ∈ ["\n", "\r\n", "\r"] := by
    intro cs nl rest h
    unfold Text.takeNewline? at h
    split at h <;> cases h <;> decide
  induction cs with
  | nil => decide
  | cons c cs ih =>
    rw [Text.firstNewline]
    split
    · next nl rest h => exact htake h
    · exact ih

theorem Module.newline_eq {base : Nat} {text : String} {m : Module} (h : Module.parseFrom? base text = some m) :
    m.newline = Text.firstNewline text.toList := by
  simp only [Module.parseFrom?, Option.bind_eq_bind, Option.bind_eq_some_iff] at h
  obtain ⟨ts, -, ⟨⟨body, footer⟩, rest⟩, -, hm⟩ := h
  cases body <;> cases hm <;> rfl

theorem Module.newline_pos {base : Nat} {text : String} {m : Module} (h : Module.parseFrom? base text = some m) :
    0 < m.newline.length := by
  have hlength : ∀ nl ∈ ["\n", "\r\n", "\r"], 0 < nl.length := by decide
  rw [Module.newline_eq h]
  exact hlength _ (Text.firstNewline_mem _)

/-- A text of a single newline has no statements. -/
theorem Module.body_of_newline {text : String} {m : Module} (h : Module.parse? text = some m) (ht : text = m.newline) :
    m.body = [] := by
  have hempty : ∀ nl ∈ ["\n", "\r\n", "\r"], (Module.parse? nl).all (fun m => m.body.isEmpty) = true := by decide +kernel
  have hmem : text ∈ ["\n", "\r\n", "\r"] := by
    rw [ht, Module.newline_eq h]
    exact Text.firstNewline_mem _
  have hbody := hempty text hmem
  rw [h] at hbody
  exact List.isEmpty_iff.1 hbody

theorem Module.spaced_of_apart {m : Module} (h : m.isApart = true) : m.spaced = m := by
  have hset : ∀ {xs : List Stmt}, AttrsUpgrade.isApart xs = true → setApart xs = xs := by
    intro xs hx
    cases xs with
    | nil => rfl
    | cons x xs =>
      cases hlines : x.leading with
      | nil => simp [AttrsUpgrade.isApart, hlines] at hx
      | cons line lines =>
        have hcomment : line.hasComment = false := by simpa [AttrsUpgrade.isApart, hlines] using hx
        simp [setApart, hlines, hcomment]
  rw [Module.spaced, hset h, List.take_append_drop]

/-- The empty lines at the top of a text are not those of the first statement. -/
theorem Module.head_leading_of_parse {base : Nat} {text : String} {m : Module} (h : Module.parseFrom? base text = some m) :
    ∀ x ∈ m.body.head?, x.leading = [] := by
  have hset : ∀ x : Stmt, (x.setLeading []).leading = [] := by
    intro x
    cases x with
    | compound cs => cases cs <;> rfl
    | _ => rfl
  simp only [Module.parseFrom?, Option.bind_eq_bind, Option.bind_eq_some_iff] at h
  obtain ⟨ts, -, ⟨⟨body, footer⟩, rest⟩, -, hm⟩ := h
  cases body with
  | nil =>
    cases hm
    intro _ hx
    cases hx
  | cons x xs =>
    cases hm
    rintro _ ⟨⟩
    exact hset x

/-- Where new imports would come first, nothing is set apart from them. -/
theorem Module.not_apart_of_parse {base : Nat} {text : String} {m : Module} (h : Module.parseFrom? base text = some m)
    (hbody : m.body ≠ []) (hplace : importPlace m.body = 0) : m.isApart = false := by
  have hhead := Module.head_leading_of_parse h
  rw [Module.isApart, hplace, List.drop_zero]
  cases hb : m.body with
  | nil => exact absurd hb hbody
  | cons x xs =>
    rw [hb] at hhead
    simp [AttrsUpgrade.isApart, hhead x rfl]

theorem Module.spaced_lines_iff {base : Nat} {text : String} {m : Module} (h : Module.parseFrom? base text = some m) :
    m.spaced.lines = m.lines ↔ m.isApart = true := by
  rw [Module.spaced_lines (Module.filled_of_parse h), m.lines_split]
  cases m.isApart with
  | true => simp
  | false =>
    simp only [Bool.false_eq_true, if_false, iff_false]
    intro heq
    have hlength := congrArg String.length heq
    have hpos := Module.newline_pos h
    simp only [String.length_append] at hlength
    omega

/-- How much is cut off at the end is decided by the last two characters. -/
theorem length_dropFinalNewline {back : String} (h : 1 < back.length) :
    ∃ k, ∀ front : String, (dropFinalNewline (front ++ back)).length + k = front.length + back.length := by
  simp only [← String.length_toList] at h ⊢
  rcases hback : back.toList.reverse with _ | ⟨c, _ | ⟨d, rest⟩⟩
  · simp_all
  · simp_all
  · have hlast : ∀ front : String, (front ++ back).toList.reverse = c :: d :: (rest ++ front.toList.reverse) := by
      simp [hback]
    have hrest : back.toList.length = rest.length + 2 := by
      rw [← List.length_reverse, hback]
      rfl
    refine ⟨if c = '\n' then if d = '\r' then 2 else 1 else if c = '\r' then 1 else 0, fun front => ?_⟩
    unfold dropFinalNewline Text.cutNewline
    rw [hrest, hlast]
    split
    · next cs he =>
      obtain ⟨rfl, rfl, rfl⟩ : c = '\n' ∧ d = '\r' ∧ rest ++ front.toList.reverse = cs := by simpa using he
      simp only [if_true, String.toList_ofList, List.length_reverse, List.length_append]
      omega
    · next cs hne he =>
      obtain ⟨rfl, rfl⟩ : c = '\n' ∧ d :: (rest ++ front.toList.reverse) = cs := by simpa using he
      have hd : d ≠ '\r' := fun hd => hne _ (by rw [hd])
      simp only [if_true, if_neg hd, String.toList_ofList, List.length_reverse, List.length_append, List.length_cons]
      omega
    · next cs he =>
      obtain ⟨rfl, rfl⟩ : c = '\r' ∧ d :: (rest ++ front.toList.reverse) = cs := by simpa using he
      simp only [Char.reduceEq, if_false, if_true, String.toList_ofList, List.length_reverse, List.length_append,
        List.length_cons]
      omega
    · next hn hr =>
      have hc : c ≠ '\n' := fun hc => hn _ (by rw [hc])
      have hc' : c ≠ '\r' := fun hc => hr _ (by rw [hc])
      simp only [if_neg hc, if_neg hc']
      rw [← List.length_reverse, hlast]
      simp only [List.length_append, List.length_reverse, List.length_cons]
      omega

/-- An empty line that was put in can be seen in a text that ends with a newline, and in one that has more than a newline after
it. -/
theorem Module.spaced_print_iff {text : String} {m : Module} (hp : Module.parse? text = some m) (hprint : m.print = text)
    (hlong : m.finalNewline = true ∨ 1 < m.linesAfter.length) : m.spaced.print = text ↔ m.isApart = true := by
  constructor
  · intro hsame
    by_contra hapart
    have hlines : m.spaced.lines = m.linesBefore ++ m.newline ++ m.linesAfter := by
      rw [Module.spaced_lines (Module.filled_of_parse hp), if_neg hapart]
    have hpos := Module.newline_pos hp
    have hends : m.ending (m.linesBefore ++ m.newline ++ m.linesAfter) = m.ending (m.linesBefore ++ m.linesAfter) := by
      rw [← hlines, ← m.lines_split]
      exact hsame.trans hprint.symm
    unfold Module.ending at hends
    cases hfinal : m.finalNewline with
    | true =>
      have hfull : ¬(m.linesBefore ++ m.newline ++ m.linesAfter).isEmpty = true := by
        intro hempty
        have hlength := congrArg String.length (String.isEmpty_iff.1 hempty)
        simp only [String.length_append, String.length_empty] at hlength
        omega
      rw [hfinal, if_pos rfl, if_pos rfl, if_neg hfull] at hends
      split at hends
      · next hempty =>
        have htext : text = m.newline := by
          rw [← hprint]
          show m.ending m.lines = _
          rw [Module.ending, hfinal, if_pos rfl, m.lines_split, if_pos hempty]
        refine hapart ?_
        rw [Module.isApart, Module.body_of_newline hp htext]
        rfl
      · have hlength := congrArg String.length hends
        simp only [String.length_append] at hlength
        omega
    | false =>
      obtain ⟨k, hcut⟩ := length_dropFinalNewline (hlong.resolve_left (by simp [hfinal]))
      rw [hfinal, if_neg Bool.false_ne_true, if_neg Bool.false_ne_true] at hends
      have hlength := hcut m.linesBefore
      rw [← hends, hcut (m.linesBefore ++ m.newline), String.length_append] at hlength
      omega
  · intro hapart
    rw [Module.spaced_of_apart hapart]
    exact hprint

/-! ## Main theorem -/

/-- A run that succeeds on a settled module keeps all its lines. It gives the module back as it is if and only if no line of
imports was added, or the statements after that are set apart; otherwise it leaves one empty line before them. A text that is
printed as it was read and ends with a newline is kept in the same cases. Statements that come first in the text are never set
apart. -/
theorem settled_module_kept_iff {text : String} {m out : Module} (hp : Module.parse? text = some m)
    (h : (Session.fresh.transform text).result = .ok out) (hm : m.Settled) :
    m.print = m.ending m.lines ∧ out.print = m.ending out.lines ∧
    m.lines = m.linesBefore ++ m.linesAfter ∧
    out.lines = m.linesBefore ++ (if m.addsLine && !m.isApart then m.newline else "") ++ m.linesAfter ∧
    (out.lines = m.lines ↔ (m.addsLine = true → m.isApart = true)) ∧
    ((m.addsLine = true → m.isApart = true) → out = m) ∧
    (m.print = text → m.finalNewline = true ∨ 1 < m.linesAfter.length →
      (out.print = text ↔ (m.addsLine = true → m.isApart = true))) ∧
    (m.body ≠ [] → importPlace m.body = 0 → m.isApart = false) := by
  obtain ⟨table, visited, added, u, hscan, hstages⟩ := transform_stages hp h
  rw [Module.table_of_scan hscan] at hstages
  have hfilled : stmtsFilled m.body := Module.filled_of_parse hp
  have hout := hstages.out_settled hm hfilled
  have hfirst : m.body ≠ [] → importPlace m.body = 0 → m.isApart = false := Module.not_apart_of_parse hp
  -- names that an import statement received go without a trace, so that only lines of their own matter
  cases hadds : m.addsLine with
  | true =>
    rw [hadds, if_pos rfl] at hout
    subst hout
    have himp : (true = true → m.isApart = true) ↔ m.isApart = true := ⟨fun hapart => hapart rfl, fun hapart _ => hapart⟩
    refine ⟨rfl, rfl, m.lines_split, ?_, ?_, fun hapart => Module.spaced_of_apart (hapart rfl), fun hprint hlong => ?_, hfirst⟩
    · rw [Module.spaced_lines hfilled]
      cases m.isApart <;> rfl
    · rw [himp, Module.spaced_lines_iff hp]
    · rw [himp, Module.spaced_print_iff hp hprint hlong]
  | false =>
    rw [hadds, if_neg Bool.false_ne_true] at hout
    subst hout
    refine ⟨rfl, rfl, out.lines_split, ?_, ?_, fun _ => rfl, fun hprint _ => ?_, hfirst⟩
    · rw [Bool.false_and, if_neg Bool.false_ne_true, String.append_empty, out.lines_split]
    · simp
    · simp [hprint]

/-- A class that is put back, and one without decorators whose field is replaced. -/
def mixedText : String := "import attr\n@attr.s\nclass A:\n x = attr.ib()\nclass B:\n y = attr.ib(type=int)\n"

/-- What one run makes of it. -/
def mixedTextUpgraded : String := "import attr\n\n@attr.s\nclass A:\n x = attr.ib()\nclass B:\n y: int\n"

/-- A second run adds a line for `define` and takes it out again, and the empty line is there already. -/
theorem mixed_text_kept_by_second_run : ∃ first m out,
    (Session.fresh.transform mixedText).result = .ok first ∧ first.print = mixedTextUpgraded ∧
    Module.parse? mixedTextUpgraded = some m ∧ (Session.fresh.transform mixedTextUpgraded).result = .ok out ∧
    m.Settled ∧ m.addsLine = true ∧ out.print = mixedTextUpgraded := by
  have hfirst : observe mixedText (fun _ _ first => first.print) = some mixedTextUpgraded := by
    decide +kernel
  have hsecond : observe mixedTextUpgraded (fun m _ _ => decide (m.Settled ∧ m.addsLine = true ∧ m.isApart = true ∧
      m.print = mixedTextUpgraded ∧ m.finalNewline = true)) = some true := by
    decide +kernel
  obtain ⟨first, -, -, hr, -, -, hprint⟩ := exists_of_observe hfirst
  obtain ⟨out, m, -, hr', hp, -, heval⟩ := exists_of_observe hsecond
  obtain ⟨hm, hadds, hapart, hsame, hfinal⟩ := of_decide_eq_true heval
  obtain ⟨-, -, -, -, -, -, hkept, -⟩ := settled_module_kept_iff hp hr' hm
  exact ⟨first, m, out, hr, hprint, hp, hr', hm, hadds, (hkept hsame (.inl hfinal)).2 fun _ => hapart⟩

/-- A module that begins with its only statement gets an empty line in every run. -/
theorem statement_moves_down_every_run : ∃ first second,
    (Session.fresh.transform "x = 1\n").result = .ok first ∧ first.print = "\nx = 1\n" ∧
    (Session.fresh.transform "\nx = 1\n").result = .ok second ∧ second.print = "\n\nx = 1\n" := by
  have hfirst : observe "x = 1\n" (fun _ _ first => first.print) = some "\nx = 1\n" := by
    decide +kernel
  have hsecond : observe "\nx = 1\n" (fun _ _ second => second.print) = some "\n\nx = 1\n" := by
    decide +kernel
  obtain ⟨first, -, -, hr, -, -, hprint⟩ := exists_of_observe hfirst
  obtain ⟨second, -, -, hr', -, -, hprint'⟩ := exists_of_observe hsecond
  exact ⟨first, second, hr, hprint, hr', hprint'⟩

end AttrsUpgrade
