import AttrsUpgrade.Proofs.Scheduling
import AttrsUpgrade.Proofs.Settled
/-!
# Modules with nothing to upgrade

An import of `define` is asked for in every module. A module that has nothing to do with the package (`Module.Unconcerned`)
therefore gets it as a new line and, since nothing uses it, loses it again. The two do not cancel: the statement after the new
line is set apart by an empty line, and that stays. So the text is kept exactly where this statement begins with an empty line,
or where there is none (`lines_kept_iff_apart`).
-/

namespace AttrsUpgrade

/-- Whether a small statement imports one of the packages that may go, or from one. -/
def Small.importsOld : Small → Bool
  | .importNames _ as => as.any fun a => removablePackages.contains a.path
  | .importFrom f => f.absolute?.any removablePackages.contains
  | _ => false

/-- The name that an import binds. -/
def Need.name : Need → String
  | .package => packageName
  | .object name => name

/-- A module without field calls, class decorators and imports of the old style, which does not refer to any name that it is
going to be given. -/
structure Module.Unconcerned (m : Module) : Prop where
  calls : ∀ c ∈ m.calls, (m.table.resolver m).isField c = false
  decorators : ∀ d ∈ m.decorators, (m.table.resolver m).isClassDecorator d.expr = false
  imports : ∀ x ∈ m.smalls, x.importsOld = false
  unused : ∀ n ∈ m.needs, ¬m.Refers n.name

instance (m : Module) : Decidable m.Unconcerned :=
  decidable_of_iff ((∀ c ∈ m.calls, (m.table.resolver m).isField c = false) ∧
      (∀ d ∈ m.decorators, (m.table.resolver m).isClassDecorator d.expr = false) ∧
      (∀ x ∈ m.smalls, x.importsOld = false) ∧ ∀ n ∈ m.needs, ¬m.Refers n.name)
    ⟨fun ⟨hc, hd, hi, hu⟩ => ⟨hc, hd, hi, hu⟩, fun ⟨hc, hd, hi, hu⟩ => ⟨hc, hd, hi, hu⟩⟩

/-! ## Nothing to do -/

theorem Node.openParts_subset (r : Resolver) (n : Node) : n.openParts r ⊆ n.parts := by
  have happend : ∀ {xs ys xs' ys' : List Part}, xs' ⊆ xs → ys' ⊆ ys → xs' ++ ys' ⊆ xs ++ ys := piecewise_subset.append
  induction n using Node.induct with
  | line | inline | noClause | noStmt => exact List.Subset.refl _
  | compound cs ih | block o i xs f ih => exact ih
  | funcDef h b ih => exact happend (List.Subset.refl _) ih
  | classDef h b ih =>
    show (if ClassDef.late r ⟨h, b⟩ then [] else h.parts ++ b.openParts r) ⊆ h.parts ++ b.parts
    split
    · exact List.nil_subset _
    · exact happend (List.Subset.refl _) ih
  | clause head b cs ihb ihc => exact happend (happend (List.Subset.refl _) ihb) ihc
  | next x xs ihx ihxs => exact happend ihx ihxs

theorem Module.Unconcerned.spared {m : Module} (h : m.Unconcerned) : ∀ p ∈ m.parts, p.Spared (m.table.resolver m) := by
  intro p hp
  constructor
  · exact fun c hc => h.calls c (List.mem_flatMap.2 ⟨p, hp, hc⟩)
  · exact fun d hd => h.decorators d (List.mem_filterMap.2 ⟨p, hp, hd⟩)

theorem Small.fromPackage_of_elsewhere {x : Small} (h : x.importsOld = false) : x.fromPackage = false := by
  cases x with
  | importFrom f =>
    by_contra hf
    have habs : f.absolute? = some packageName := by simpa [Small.fromPackage] using hf
    simp [Small.importsOld, habs, removablePackages, packageName] at h
  | _ => rfl

/-- An import from elsewhere stays as it is. -/
theorem Small.isKept_of_elsewhere {x : Small} (h : x.importsOld = false) (u : Usage) (s : Scope) : x.isKept u s = true := by
  cases x with
  | importNames opening as =>
    rw [Small.isKept, List.all_eq_true]
    intro a ha
    have hpath : a.path ∉ removablePackages := by simpa using List.any_eq_false.1 h a ha
    simp [Usage.drops, hpath]
  | importFrom f =>
    simp only [Small.isKept]
    split
    · next source parens as habs himp =>
      -- nothing may go of what this module is the source of
      have hnames : removableNames source = [] := by
        have hsource : source ∉ removablePackages := by simpa [Small.importsOld, habs] using h
        simp only [removablePackages, List.mem_cons, List.not_mem_nil, or_false, not_or] at hsource
        rw [removableNames, if_neg hsource.1, if_neg hsource.2]
      simp [Usage.drops, hnames]
    · rfl
  | _ => rfl

/-- An import from elsewhere does not bring names of the package. -/
theorem Gathered.names_add_of_elsewhere {x : Small} (h : x.importsOld = false) (g : Gathered) :
    (g.add x).names packageName = g.names packageName := by
  cases x with
  | importFrom f =>
    cases habs : f.absolute? with
    | none => simp only [Gathered.add, habs]
    | some source =>
      have hsource : packageName ≠ source := by
        rintro rfl
        simp [Small.importsOld, habs, removablePackages, packageName] at h
      cases himp : f.imported with
      | star => simp only [Gathered.add, habs, himp, Gathered.names_put, if_neg hsource]
      | names parens as =>
        simp only [Gathered.add, habs, himp]
        split
        · rfl
        · split <;> simp only [Gathered.names_put, if_neg hsource]
  | _ => rfl

theorem Module.names_of_elsewhere {m : Module} (h : ∀ x ∈ m.smalls, x.importsOld = false) :
    m.imports.names packageName = [] := by
  have hfold : ∀ (xs : List Small) g, (∀ x ∈ xs, x.importsOld = false) →
      (xs.foldl Gathered.add g).names packageName = g.names packageName := by
    intro xs
    induction xs with
    | nil => exact fun _ _ => rfl
    | cons x xs ih =>
      intro g hx
      rw [List.forall_mem_cons] at hx
      rw [List.foldl_cons, ih _ hx.2, Gathered.names_add_of_elsewhere hx.1]
  rw [Module.imports, hfold m.smalls .empty h]
  rfl

theorem Module.Unconcerned.settled {m : Module} (h : m.Unconcerned) : m.Settled where
  spared p hp := h.spared p ((Node.stmts m.body).openParts_subset _ hp)
  kept y hy := Small.isKept_of_elsewhere (h.imports y.2 (m.smalls_eq ▸ List.mem_map_of_mem hy)) _ _
  unused name hname := by
    rcases List.mem_append.1 hname with hname | hname
    · split at hname
      · next hp =>
        obtain rfl := List.mem_singleton.1 hname
        exact h.unused .package (missing_package_iff.1 hp).1
      · cases hname
    · exact h.unused (.object name) (mem_missing_objects.1 hname).1
  top y hy hfrom := by
    rw [Small.fromPackage_of_elsewhere (h.imports y.2 (m.smalls_eq ▸ List.mem_map_of_mem hy))] at hfrom
    cases hfrom

/-- `define` is asked for and not there, and nothing can receive it. -/
theorem Module.Unconcerned.addsLine {m : Module} (h : m.Unconcerned) : m.addsLine = true := by
  have hdefine : "define" ∈ m.missing.objects := by
    refine mem_missing_objects.2 ⟨m.define_mem_needs, ?_⟩
    simp [Need.IsMet, Module.names_of_elsewhere h.imports]
  have hreceives : m.smalls.any Small.receives = false := by
    refine List.any_eq_false.2 fun x hx => ?_
    have hpackage := Small.fromPackage_of_elsewhere (h.imports x hx)
    cases x with
    | importFrom f =>
      simp only [Small.receives]
      split
      · exact Bool.false_ne_true
      · exact Bool.eq_false_iff.1 hpackage
    | _ => exact Bool.false_ne_true
  rw [Module.addsLine, hreceives, List.isEmpty_eq_false_iff.2 (List.ne_nil_of_mem hdefine)]
  simp

/-- Of an unconcerned module only an empty line is left of what a run does to it. -/
theorem Stages.out_spaced {m visited added out : Module} {u : Usage} (h : Stages (m.table.resolver m) m visited added out u)
    (hm : m.Unconcerned) (hf : stmtsFilled m.body) : out = m.spaced := by
  rw [h.out_settled hm.settled hf, if_pos hm.addsLine]

/-! ## Main theorem -/

/-- In a module that has nothing to do with the package, a run keeps every line, and changes nothing at all if and only if the
statements after the place of the imports are set apart. Otherwise it puts one empty line before them. A text that is printed as
it was read and ends with a newline is kept in the same case. -/
theorem lines_kept_iff_apart {text : String} {m out : Module} (hp : Module.parse? text = some m)
    (h : (Session.fresh.transform text).result = .ok out) (hm : m.Unconcerned) :
    m.print = m.ending m.lines ∧ out.print = m.ending out.lines ∧
    m.lines = m.linesBefore ++ m.linesAfter ∧
    out.lines = m.linesBefore ++ (if m.isApart then "" else m.newline) ++ m.linesAfter ∧
    (out.lines = m.lines ↔ m.isApart = true) ∧ (m.isApart = true → out.print = m.print) ∧
    (m.print = text → m.finalNewline = true ∨ 1 < m.linesAfter.length → (out.print = text ↔ m.isApart = true)) := by
  obtain ⟨table, visited, added, u, hscan, hstages⟩ := transform_stages hp h
  rw [Module.table_of_scan hscan] at hstages
  have hfilled : stmtsFilled m.body := Module.filled_of_parse hp
  obtain rfl := hstages.out_spaced hm hfilled
  have hlines := Module.spaced_lines hfilled
  have hprint : m.spaced.print = m.ending m.spaced.lines := rfl
  have hsame := Module.spaced_lines_iff hp
  refine ⟨rfl, hprint, m.lines_split, hlines, hsame, fun hapart => ?_, Module.spaced_print_iff hp⟩
  rw [hprint, hsame.2 hapart]
  rfl

/-- A `field` of another package makes the text ask for two imports. -/
def foreignText : String := "import os\n\nclass A:\n    x: int = os.field(1)\n"

theorem foreign_text_kept : ∃ m out, Module.parse? foreignText = some m ∧
    (Session.fresh.transform foreignText).result = .ok out ∧ m.Unconcerned ∧
    m.needs = [.object "define", .object "field"] ∧ m.print = foreignText ∧ out.print = foreignText := by
  have heval : observe foreignText (fun m _ _ => decide (m.Unconcerned ∧ m.needs = [.object "define", .object "field"] ∧
      m.print = foreignText ∧ m.finalNewline = true ∧ m.isApart = true)) = some true := by
    decide +kernel
  obtain ⟨out, m, -, hr, hp, -, heval⟩ := exists_of_observe heval
  obtain ⟨hm, hneeds, hprint, hfinal, hapart⟩ := of_decide_eq_true heval
  obtain ⟨-, -, -, -, -, -, hkept⟩ := lines_kept_iff_apart hp hr hm
  exact ⟨m, out, hp, hr, hm, hneeds, hprint, (hkept hprint (.inl hfinal)).2 hapart⟩

/-- One statement, before which nothing stands. -/
def bareText : String := "x = 1\n"

/-- An empty line comes before it. -/
theorem bare_text_gets_empty_line : ∃ m out, Module.parse? bareText = some m ∧
    (Session.fresh.transform bareText).result = .ok out ∧ m.Unconcerned ∧ m.print = bareText ∧ out.print = "\nx = 1\n" := by
  have heval : observe bareText (fun m _ out => decide (m.Unconcerned ∧ m.print = bareText ∧ out.print = "\nx = 1\n")) =
      some true := by
    decide +kernel
  obtain ⟨out, m, -, hr, hp, -, heval⟩ := exists_of_observe heval
  obtain ⟨hm, hprint, hout⟩ := of_decide_eq_true heval
  exact ⟨m, out, hp, hr, hm, hprint, hout⟩

end AttrsUpgrade
