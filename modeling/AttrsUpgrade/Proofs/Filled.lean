import AttrsUpgrade.Grammar.Stmt
/-!
# What is read holds something

Every line that is read holds a small statement, every import a name and every compound statement a clause, however deep it
stands (`Module.filled_of_parse`). What a parser can give is told by `Parser.Gives`, which goes from step to step.
-/

namespace AttrsUpgrade

def Imported.Filled : Imported → Prop
  | .star => True
  | .names _ as => as ≠ []

/-- The statement names something if it is an import. -/
def Small.Filled : Small → Prop
  | .importNames _ as => as ≠ []
  | .importFrom f => f.imported.Filled
  | _ => True

def itemsFilled (is : List Item) : Prop := is ≠ [] ∧ ∀ i ∈ is, i.stmt.Filled

mutual

/-- The lines in the statement hold small statements, its imports names and its compound statements clauses. -/
def Stmt.Filled : Stmt → Prop
  | .line l => itemsFilled l.items
  | .compound cs => cs ≠ [] ∧ clausesFilled cs
  | .funcDef _ b => b.Filled
  | .classDef _ b => b.Filled

def clausesFilled : List Clause → Prop
  | [] => True
  | ⟨_, b⟩ :: cs => b.Filled ∧ clausesFilled cs

def Suite.Filled : Suite → Prop
  | .inline _ is _ => itemsFilled is
  | .block _ _ xs _ => stmtsFilled xs

def stmtsFilled : List Stmt → Prop
  | [] => True
  | x :: xs => x.Filled ∧ stmtsFilled xs

end

theorem stmtsFilled_iff {xs : List Stmt} : stmtsFilled xs ↔ ∀ x ∈ xs, x.Filled := by
  induction xs with
  | nil => simp [stmtsFilled]
  | cons x xs ih => simp only [stmtsFilled, List.forall_mem_cons, ih]

theorem clausesFilled_iff {cs : List Clause} : clausesFilled cs ↔ ∀ c ∈ cs, c.body.Filled := by
  induction cs with
  | nil => simp [clausesFilled]
  | cons c cs ih =>
    obtain ⟨head, b⟩ := c
    simp only [clausesFilled, List.forall_mem_cons, ih]

theorem Stmt.Filled.setLeading {x : Stmt} (h : x.Filled) (lines : List Span) : (x.setLeading lines).Filled := by
  cases x with
  | line | funcDef | classDef => exact h
  | compound cs =>
    cases cs with
    | nil => exact h
    | cons c cs =>
      obtain ⟨head, b⟩ := c
      exact ⟨by simp, h.2⟩

/-! ## What parsers give -/

/-- Whatever the parser gives is as `P` says. -/
def Parser.Gives {α : Type} (P : α → Prop) (p : Parser α) : Prop := ∀ ts a ts', p ts = some (a, ts') → P a

namespace Parser.Gives
variable {α β : Type} {P : α → Prop} {Q : β → Prop}

theorem pure {a : α} (h : P a) : Gives P (pure a) := by
  intro ts b ts' hb
  cases hb
  exact h

theorem fail : Gives P fail := by
  intro ts a ts' h
  cases h

theorem bind {p : Parser β} {f : β → Parser α} (hp : Gives Q p) (hf : ∀ b, Q b → Gives P (f b)) : Gives P (p >>= f) := by
  intro ts a ts' h
  obtain ⟨⟨b, ts₁⟩, hb, ha⟩ := Option.bind_eq_some_iff.1 h
  exact hf b (hp ts b ts₁ hb) ts₁ a ts' ha

/-- A step of whose result nothing needs to be known. -/
theorem after {p : Parser β} {f : β → Parser α} (hf : ∀ b, Gives P (f b)) : Gives P (p >>= f) :=
  bind (Q := fun _ => True) (fun _ _ _ _ => trivial) fun b _ => hf b

theorem ite {c : Prop} [Decidable c] {p q : Parser α} (hp : Gives P p) (hq : Gives P q) : Gives P (if c then p else q) := by
  split
  · exact hp
  · exact hq

theorem many {step : Parser (Option α)} (h : Gives (fun o => ∀ a ∈ o, P a) step) (bound : Nat) :
    Gives (fun as => ∀ a ∈ as, P a) (many bound step) := by
  induction bound with
  | zero => exact pure (by simp)
  | succ n ih =>
    refine bind h fun o ho => ?_
    cases o with
    | none => exact pure (by simp)
    | some a => exact bind ih fun as has => pure (List.forall_mem_cons.2 ⟨ho a rfl, has⟩)

end Parser.Gives

namespace Grammar
open AttrsUpgrade.Parser

/-- The clauses of a compound statement. -/
def AreFilled (cs : List Clause) : Prop := (Stmt.compound cs).Filled

theorem areFilled_cons {c : Clause} {cs : List Clause} (hc : c.body.Filled) (hcs : ∀ c ∈ cs, c.body.Filled) :
    AreFilled (c :: cs) :=
  ⟨by simp, clausesFilled_iff.2 (List.forall_mem_cons.2 ⟨hc, hcs⟩)⟩

section
variable (r : Recur)

theorem importedModules_gives (n : Nat) : Gives (fun as => as ≠ []) (importedModules r n) := by
  cases n with
  | zero => exact .fail
  | succ n =>
    refine .after fun _ => .after fun _ => .after fun comma => .ite ?_ (.pure (by simp))
    exact .after fun _ => .after fun _ => .pure (by simp)

theorem importedNames_gives (parenthesised : Bool) (n : Nat) : Gives (fun as => as ≠ []) (importedNames parenthesised n) := by
  cases n with
  | zero => exact .fail
  | succ n =>
    refine .after fun _ => .after fun _ => .after fun comma => .ite ?_ (.pure (by simp))
    exact .after fun _ => .after fun name => .ite (.after fun _ => .pure (by simp)) (.pure (by simp))

theorem imported_gives : Gives Imported.Filled (imported r) := by
  refine .after fun t => .ite (.after fun _ => .pure trivial) (.ite ?_ ?_)
  · refine .after fun _ => .after fun _ => .bind (importedNames_gives true _) fun as has => ?_
    exact .after fun _ => .after fun _ => .pure has
  · exact .bind (importedNames_gives false _) fun as has => .pure has

theorem importFrom_gives : Gives Small.Filled (importFrom r) := by
  refine .after fun _ => .after fun _ => .after fun name => .ite ?_ ?_
  · exact .after fun _ => .after fun _ => .bind (imported_gives r) fun _ h => .pure h
  · exact .after fun _ => .after fun _ => .bind (imported_gives r) fun _ h => .pure h

theorem exprStmt_gives : Gives Small.Filled (exprStmt r) := by
  refine .after fun _ => .after fun mark => ?_
  cases mark with
  | some mark =>
    refine .after fun _ => .after fun equals => ?_
    cases equals with
    | some equals => exact .after fun _ => .pure trivial
    | none => exact .pure trivial
  | none =>
    refine .after fun sign => ?_
    cases sign with
    | some sign => exact .after fun yield => .ite (.after fun _ => .pure trivial) (.after fun _ => .pure trivial)
    | none =>
      refine .after fun equals => ?_
      cases equals with
      | some equals => exact .after fun _ => .pure trivial
      | none => exact .pure trivial

/-- The statements that begin with a word of their own and are no imports. -/
theorem wordStmt_gives (kind : PlainKind) (word : String) : Gives Small.Filled (plainWord kind word) ∧
    Gives Small.Filled (delStmt r) ∧ Gives Small.Filled (returnStmt r) ∧ Gives Small.Filled (raiseStmt r) ∧
    Gives Small.Filled (assertStmt r) := by
  refine ⟨.after fun _ => .pure trivial, .after fun _ => .after fun _ => .pure trivial, ?_, ?_, ?_⟩
  · exact .after fun _ => .after fun _ => .ite (.after fun _ => .after fun _ => .pure trivial) (.pure trivial)
  · refine .after fun _ => .after fun _ => .ite (.after fun _ => .after fun _ => .after fun cause => ?_) (.pure trivial)
    cases cause with
    | some cause => exact .after fun _ => .pure trivial
    | none => exact .pure trivial
  · refine .after fun _ => .after fun _ => .after fun comma => ?_
    cases comma with
    | some comma => exact .after fun _ => .pure trivial
    | none => exact .pure trivial

theorem smallStmt_gives : Gives Small.Filled (smallStmt r) := by
  have hdeclare : ∀ reach word, Gives Small.Filled (declare r reach word) :=
    fun _ _ => .after fun _ => .after fun _ => .pure trivial
  have hword : ∀ kind word, Gives Small.Filled (plainWord kind word) := fun kind word => (wordStmt_gives r kind word).1
  obtain ⟨-, hdel, hreturn, hraise, hassert⟩ := wordStmt_gives r .pass "pass"
  have himport : Gives Small.Filled (importNames r) :=
    .after fun _ => .bind (importedModules_gives r _) fun _ h => .pure h
  refine .after fun t => .ite (exprStmt_gives r) ?_
  refine .ite (hword _ _) (.ite (hword _ _) (.ite (hword _ _) ?_))
  refine .ite hdel (.ite hreturn (.ite hraise (.ite hassert ?_)))
  refine .ite (hdeclare _ _) (.ite (hdeclare _ _) (.ite himport (.ite (importFrom_gives r) ?_)))
  exact .ite (.after fun _ => .pure trivial) (exprStmt_gives r)

theorem items_gives (n : Nat) : Gives itemsFilled (items r n) := by
  induction n with
  | zero => exact .fail
  | succ n ih =>
    refine .bind (smallStmt_gives r) fun stmt hstmt => .after fun semicolon => ?_
    have hone : ∀ sep, itemsFilled [⟨stmt, sep⟩] := fun sep => ⟨by simp, by simpa using hstmt⟩
    refine .ite (.after fun _ => .after fun _ => .ite ?_ (.pure (hone _))) (.pure (hone _))
    -- after a semicolon there is another statement or the end of the line
    refine .after fun _ => .bind ih fun is his => .pure ⟨by simp, ?_⟩
    exact List.forall_mem_cons.2 ⟨hstmt, his.2⟩

theorem line_gives : Gives Stmt.Filled (line r) :=
  .after fun _ => .bind (items_gives r _) fun _ his => .after fun _ => .pure his

variable {stmt : Parser Stmt} (hstmt : Gives Stmt.Filled stmt)
include hstmt

theorem suite_gives : Gives Suite.Filled (suite r stmt) := by
  have hothers : Gives (fun o => ∀ x ∈ o, Stmt.Filled x)
      (do if ← isNextKind .dedent then return none else return some (← stmt)) :=
    .after fun _ => .ite (.pure (by simp)) (.bind hstmt fun x hx => .pure (by simpa using hx))
  refine .after fun _ => .after fun newline => .ite ?_ ?_
  · refine .after fun _ => .after fun _ => .bind hstmt fun x hx => .bind (.many hothers _) fun xs hxs => ?_
    exact .after fun _ => .pure (stmtsFilled_iff.2 (List.forall_mem_cons.2 ⟨hx, hxs⟩))
  · exact .after fun _ => .bind (items_gives r _) fun _ his => .after fun _ => .pure his

theorem clause_gives (header : Parser Header) : Gives (fun c => c.body.Filled) (clause r stmt header) :=
  .after fun _ => .after fun _ => .bind (suite_gives r hstmt) fun _ hb => .pure hb

theorem clause?_gives (word : String) (header : Parser Header) :
    Gives (fun cs => ∀ c ∈ cs, c.body.Filled) (clause? r stmt word header) :=
  .after fun _ => .ite (.bind (clause_gives r hstmt header) fun c hc => .pure (by simpa using hc)) (.pure (by simp))

/-- Clauses that go on as long as a word comes next. -/
theorem manyClauses_gives (word : String) (header : Parser Header) (n : Nat) :
    Gives (fun cs => ∀ c ∈ cs, c.body.Filled)
      (many n do if ← isNext word then return some (← clause r stmt header) else return none) :=
  .many (.after fun _ => .ite (.bind (clause_gives r hstmt header) fun c hc => .pure (by simpa using hc)) (.pure (by simp))) n

theorem ifStmt_gives : Gives AreFilled (ifStmt r stmt) := by
  refine .bind (clause_gives r hstmt _) fun c hc => .bind (manyClauses_gives r hstmt _ _ _) fun cs hcs => ?_
  exact .bind (clause?_gives r hstmt _ _) fun cs' hcs' => .pure (areFilled_cons hc (List.forall_mem_append.2 ⟨hcs, hcs'⟩))

theorem whileStmt_gives : Gives AreFilled (whileStmt r stmt) :=
  .bind (clause_gives r hstmt _) fun _ hc => .bind (clause?_gives r hstmt _ _) fun _ hcs => .pure (areFilled_cons hc hcs)

theorem tryStmt_gives : Gives AreFilled (tryStmt r stmt) := by
  refine .bind (clause_gives r hstmt _) fun c hc => .after fun _ => .ite ?_ ?_
  · exact .bind (clause_gives r hstmt _) fun c' hc' => .pure (areFilled_cons hc (by simpa using hc'))
  · refine .bind (clause_gives r hstmt _) fun c' hc' => .bind (manyClauses_gives r hstmt _ _ _) fun cs hcs => ?_
    refine .after fun _ => .bind (clause?_gives r hstmt _ _) fun orelse ho => ?_
    refine .bind (clause?_gives r hstmt _ _) fun final hf => .pure (areFilled_cons hc ?_)
    exact List.forall_mem_append.2 ⟨List.forall_mem_append.2 ⟨List.forall_mem_cons.2 ⟨hc', hcs⟩, ho⟩, hf⟩

theorem funcFrom_gives (leading : List Span) (ds : List Decorator) (between : List Span) (opening : Span) :
    Gives Stmt.Filled (funcFrom r stmt leading ds between opening) := by
  refine .after fun _ => .after fun _ => .after fun _ => .after fun _ => .after fun _ => .after fun arrow => ?_
  cases arrow with
  | some mark => exact .after fun _ => .after fun _ => .bind (suite_gives r hstmt) fun _ hb => .pure hb
  | none => exact .after fun _ => .bind (suite_gives r hstmt) fun _ hb => .pure hb

theorem classFrom_gives (leading : List Span) (ds : List Decorator) (between : List Span) :
    Gives Stmt.Filled (classFrom r stmt leading ds between) :=
  .after fun _ => .after fun _ => .after fun _ => .bind (suite_gives r hstmt) fun _ hb => .pure hb

theorem decorated_gives : Gives Stmt.Filled (decorated r stmt) :=
  .after fun _ => .after fun _ => .after fun _ =>
    .ite (classFrom_gives r hstmt _ _ _) (.after fun _ => funcFrom_gives r hstmt _ _ _ _)

theorem asyncStmt_gives : Gives Stmt.Filled (asyncStmt r stmt) := by
  refine .after fun _ => .after fun _ => .after fun t => .ite ?_ (.ite ?_ (funcFrom_gives r hstmt _ _ _ _))
  · refine .after fun _ => .bind (suite_gives r hstmt) fun b hb => ?_
    exact .bind (clause?_gives r hstmt _ _) fun cs hcs => .pure (areFilled_cons hb hcs)
  · exact .after fun _ => .bind (suite_gives r hstmt) fun b hb => .pure (areFilled_cons hb (by simp))

theorem statement_gives : Gives Stmt.Filled (statement r stmt) := by
  have hfor : ∀ header, Gives Stmt.Filled (do
      let first ← clause r stmt header
      return .compound (first :: (← elseClause r stmt))) := fun header =>
    .bind (clause_gives r hstmt _) fun c hc => .bind (clause?_gives r hstmt _ _) fun cs hcs => .pure (areFilled_cons hc hcs)
  have hwith : ∀ header, Gives Stmt.Filled (do return .compound [← clause r stmt header]) := fun header =>
    .bind (clause_gives r hstmt _) fun c hc => .pure (areFilled_cons hc (by simp))
  refine .after fun t => .ite (.bind (ifStmt_gives r hstmt) fun _ h => .pure h) ?_
  refine .ite (.bind (whileStmt_gives r hstmt) fun _ h => .pure h) (.ite (hfor _) ?_)
  refine .ite (.bind (tryStmt_gives r hstmt) fun _ h => .pure h) (.ite (hwith _) ?_)
  refine .ite (.after fun _ => funcFrom_gives r hstmt _ _ _ _) (.ite (.after fun _ => classFrom_gives r hstmt _ _ _) ?_)
  exact .ite (asyncStmt_gives r hstmt) (.ite (decorated_gives r hstmt) (line_gives r))

end

theorem statementUpTo_gives (r : Recur) (n : Nat) : Gives Stmt.Filled (statementUpTo r n) := by
  induction n with
  | zero => exact .fail
  | succ n ih => exact statement_gives r ih

theorem moduleBody_gives (bound : Nat) : Gives (fun b => ∀ x ∈ b.1, Stmt.Filled x) (moduleBody bound) := by
  have hstep : Gives (fun o => ∀ x ∈ o, Stmt.Filled x)
      (do if ← isNextKind .finish then return none else return some (← statementUpTo (Recur.upTo bound) bound)) := by
    exact .after fun _ => .ite (.pure (by simp)) (.bind (statementUpTo_gives _ _) fun x hx => .pure (by simpa using hx))
  exact .bind (.many hstep bound) fun xs hxs => .after fun _ => .pure hxs

end Grammar

/-- A module that is read is filled. -/
theorem Module.filled_of_parse {base : Nat} {text : String} {m : Module} (h : Module.parseFrom? base text = some m) :
    stmtsFilled m.body := by
  simp only [Module.parseFrom?, Option.bind_eq_bind, Option.bind_eq_some_iff] at h
  obtain ⟨ts, -, ⟨⟨body, footer⟩, rest⟩, hbody, hm⟩ := h
  have hfilled := Grammar.moduleBody_gives _ _ _ _ hbody
  -- the empty lines of the first statement go to the header
  cases body with
  | nil =>
    cases hm
    trivial
  | cons x xs =>
    cases hm
    obtain ⟨hx, hxs⟩ := List.forall_mem_cons.1 hfilled
    exact ⟨hx.setLeading [], stmtsFilled_iff.2 hxs⟩

end AttrsUpgrade
