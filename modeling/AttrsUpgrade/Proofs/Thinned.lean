import AttrsUpgrade.Proofs.ImportUse
/-!
# Tables without the imports that went

Imports that are taken out at the top level leave the rest of the table as it was: the same assignments and accesses, in the same
order (`Table.Thins`). So an import that stays is used in what is left if it was used before (`Module.usesImport_lightened`).
-/

namespace AttrsUpgrade

/-! ## Times -/

/-- The time in a scope after moments of the top level were taken out; `σ` tells how many are left up to a time. -/
def timeIn (σ : Nat → Nat) (s : Scope) (time : Nat) : Nat := if s = [] then σ time else time

/-- Whatever is imported under the name at the top level comes before what happens next. -/
def Table.IsPast (t : Table) (name : String) : Prop :=
  ∀ a ∈ t.assignments, a.name = name → a.scope = [] → a.source.isSome = true → a.time < t.clock []

theorem Table.Timely.isPast_tick {t : Table} (h : t.Timely) (name : String) : (t.tick []).IsPast name := by
  intro a ha _ hs _
  rw [Table.clock_tick, if_pos rfl]
  exact Nat.lt_succ_of_le (h.assigned a ha hs)

/-- Steps that import nothing under the name keep that so. -/
theorem Table.Goes.isPast {N : Effect → Prop} {binds : List (Bind (Option ImportSource))} {t t' : Table} {name : String}
    (hg : t.Goes N binds t') (hname : ¬N (.loud name)) (hbinds : ∀ s source, .assign s name source ∈ binds → source = none)
    (h : t.IsPast name) : t'.IsPast name := by
  rintro a ha rfl hs hsome
  rcases hg.assigned a ha with ha | hloud | ⟨hinner, -⟩ | ⟨s, hb, -, -⟩
  · exact Nat.lt_of_lt_of_le (h a ha rfl hs hsome) (hg.clock [])
  · exact absurd hloud hname
  · rw [hs] at hinner
    cases hinner
  · rw [hbinds s a.source hb] at hsome
    cases hsome

/-! ## Tables -/

/-- What an assignment is after its statement lost imports of names in `D`. -/
structure Assignment.LeftAs (D : String → Prop) (a a' : Assignment) : Prop where
  alike : a.Alike a'
  source : ∀ i ∈ a.source, ∃ i' ∈ a'.source, i'.origin = i.origin ∧
    ∀ e ∈ i.names, e ∈ i'.names ∨ a.scope = [] ∧ ∃ name, D name ∧ e = ⟨[name], none⟩

theorem Assignment.LeftAs.of_source {D : String → Prop} {a a' : Assignment} (hname : a'.name = a.name)
    (hscope : a'.scope = a.scope) (hsource : a'.source = a.source) : a.LeftAs D a' :=
  ⟨.of_source hname hscope hsource, fun i hi => ⟨i, hsource.trans hi, rfl, fun _ he => .inl he⟩⟩

/-- The second table is left of the first after imports of names in `D` went at the top level. An import of `n` that stays there
is told from what comes later in both. -/
structure Table.Thins (D : String → Prop) (n : String) (σ : Nat → Nat) (t t' : Table) : Prop where
  beside : t.Beside t'
  timely : t.Timely
  left : ∀ a ∈ t.assignments, D a.name ∧ a.scope = [] ∨
    ∃ a' ∈ t'.assignments, a.LeftAs D a' ∧ a'.time = timeIn σ a.scope a.time
  old : ∀ a' ∈ t'.assignments, ∃ a ∈ t.assignments, a.name = a'.name ∧ a.scope = a'.scope
  accessed : ∀ x ∈ t.accesses, ∃ x' ∈ t'.accesses, x'.paths = x.paths ∧ x'.scope = x.scope ∧ x'.time = timeIn σ x.scope x.time
  clock : ∀ s ≠ [], t'.clock s = t.clock s
  now : ∀ time, t.clock [] ≤ time → σ time = t'.clock []
  mono : ∀ i j, i ≤ j → σ i ≤ σ j
  later : ¬D n → ∀ a ∈ t.assignments, a.name = n → a.scope = [] → a.source.isSome = true → a.time < t.clock [] →
    σ a.time < σ (a.time + 1)

/-- The same, whatever the times are. -/
def Table.ThinsTo (D : String → Prop) (n : String) (t t' : Table) : Prop := ∃ σ, t.Thins D n σ t'

namespace Table.Thins
variable {D : String → Prop} {n : String} {σ : Nat → Nat} {t t' : Table} (h : t.Thins D n σ t')

theorem refl (fresh : Nat) : (Table.empty fresh).Thins D n (fun _ => 0) (.empty fresh) where
  beside := .refl _
  timely := ⟨fun _ ha => absurd ha List.not_mem_nil, fun _ hx => absurd hx List.not_mem_nil⟩
  left _ ha := absurd ha List.not_mem_nil
  old _ ha := absurd ha List.not_mem_nil
  accessed _ hx := absurd hx List.not_mem_nil
  clock _ _ := rfl
  now _ _ := rfl
  mono _ _ _ := Nat.le_refl _
  later _ _ ha := absurd ha List.not_mem_nil

include h

theorem clock_eq (s : Scope) : t'.clock s = timeIn σ s (t.clock s) := by
  unfold timeIn
  split
  · next hs =>
    subst hs
    exact (h.now _ (Nat.le_refl _)).symm
  · next hs => exact h.clock s hs

/-- Both tables go on by the same moment of the top level. -/
theorem tick_top : t.tick [] |>.Thins D n (fun time => if time ≤ t.clock [] then σ time else t'.clock [] + 1) (t'.tick []) := by
  have htime : ∀ {s : Scope} {time : Nat}, (s = [] → time ≤ t.clock []) →
      timeIn (fun time => if time ≤ t.clock [] then σ time else t'.clock [] + 1) s time = timeIn σ s time := by
    intro s time hle
    unfold timeIn
    split
    · next hs => exact if_pos (hle hs)
    · rfl
  have hnow : σ (t.clock []) = t'.clock [] := h.now _ (Nat.le_refl _)
  refine ⟨Beside.lasting.tick [] h.beside, (Timely.lasting.tick [] ⟨rfl, h.timely⟩).2, fun a ha => ?_, h.old, fun x hx => ?_,
    fun s hs => ?_, fun time hle => ?_, fun i j hij => ?_, fun hD a ha hn hs hsome hlt => ?_⟩
  · refine (h.left a ha).imp_right fun ⟨a', ha', hleft, ht⟩ => ⟨a', ha', hleft, ?_⟩
    rw [ht, htime (h.timely.assigned a ha)]
  · obtain ⟨x', hx', hpaths, hscope, ht⟩ := h.accessed x hx
    exact ⟨x', hx', hpaths, hscope, by rw [ht, htime (h.timely.accessed x hx)]⟩
  · rw [Table.clock_tick, Table.clock_tick, h.clock s hs]
  · rw [Table.clock_tick, if_pos rfl] at hle ⊢
    rw [if_neg (by omega)]
  · by_cases hj : j ≤ t.clock []
    · rw [if_pos hj, if_pos (Nat.le_trans hij hj)]
      exact h.mono i j hij
    · rw [if_neg hj]
      split
      · next hi => exact Nat.le_succ_of_le (hnow ▸ h.mono i _ hi)
      · exact Nat.le_refl _
  · rw [Table.clock_tick, if_pos rfl] at hlt
    rcases Nat.lt_succ_iff_lt_or_eq.1 hlt with hlt | heq
    · rw [if_pos (Nat.le_of_lt hlt), if_pos (Nat.succ_le_of_lt hlt)]
      exact h.later hD a ha hn hs hsome hlt
    · rw [heq, if_pos (Nat.le_refl _), if_neg (by omega), hnow]
      exact Nat.lt_succ_self _

/-- A moment passes that is taken out, `n` not having been imported since the last. -/
theorem tick_lost (hpast : ¬D n → t.IsPast n) : (t.tick []).Thins D n σ t' := by
  refine { h with
    beside := { h.beside with }, timely := (Timely.lasting.tick [] ⟨rfl, h.timely⟩).2
    clock := fun s hs => ?_, now := fun time hle => ?_
    later := fun hD a ha hn hs hsome _ => h.later hD a ha hn hs hsome (hpast hD a ha hn hs hsome) }
  · rw [h.clock s hs, Table.clock_tick, if_neg (Ne.symm hs), Nat.add_zero]
  · refine h.now time (Nat.le_trans ?_ hle)
    rw [Table.clock_tick]
    exact Nat.le_add_right _ _

/-- Something is assigned in both tables, by statements of which the second may have lost names. -/
theorem assign_both {s : Scope} {name : String} {source source' : Option ImportSource}
    (hleft : Assignment.LeftAs D ⟨name, t.home name s, t.clock (t.home name s), source⟩
      ⟨name, t'.home name s, t'.clock (t'.home name s), source'⟩) :
    (t.assign s name source).Thins D n σ (t'.assign s name source') := by
  have hhome := h.beside.home_eq name s
  refine { h with
    beside := { h.beside with
      assigned := .cons hleft.alike h.beside.assigned, assigned' := .cons hleft.alike.symm h.beside.assigned' }
    timely := (Timely.lasting.assign s name source ⟨rfl, h.timely⟩).2
    left := fun a ha => ?_, old := fun a' ha' => ?_, later := fun hD a ha hn hs hsome hlt => ?_ }
  · rcases List.mem_cons.1 ha with rfl | ha
    · refine .inr ⟨_, List.mem_cons_self, hleft, ?_⟩
      simp only [hhome]
      exact h.clock_eq _
    · exact (h.left a ha).imp_right fun ⟨a', ha', hlike⟩ => ⟨a', List.mem_cons_of_mem _ ha', hlike⟩
  · rcases List.mem_cons.1 ha' with rfl | ha'
    · exact ⟨_, List.mem_cons_self, rfl, hhome.symm⟩
    · obtain ⟨a, ha, hlike⟩ := h.old a' ha'
      exact ⟨a, List.mem_cons_of_mem _ ha, hlike⟩
  · rcases List.mem_cons.1 ha with rfl | ha
    · simp only at hs hlt
      rw [hs] at hlt
      exact absurd hlt (Nat.lt_irrefl _)
    · exact h.later hD a ha hn hs hsome hlt

/-- A name in `D` is imported that goes. -/
theorem assign_lost {name : String} (hD : D name) {source : Option ImportSource}
    (hm : Assignment.IsMute ⟨name, t.home name [], t.clock (t.home name []), source⟩) :
    (t.assign [] name source).Thins D n σ t' := by
  refine { h with
    beside := (h.beside.symm.assign_mute hm).symm, timely := (Timely.lasting.assign [] name source ⟨rfl, h.timely⟩).2
    left := fun a ha => ?_, old := fun a' ha' => ?_, later := fun hn a ha hname => ?_ }
  · rcases List.mem_cons.1 ha with rfl | ha
    · exact .inl ⟨hD, t.home_top name⟩
    · exact h.left a ha
  · obtain ⟨a, ha, hlike⟩ := h.old a' ha'
    exact ⟨a, List.mem_cons_of_mem _ ha, hlike⟩
  · rcases List.mem_cons.1 ha with rfl | ha
    · exact absurd (hname ▸ hD) hn
    · exact h.later hn a ha hname

end Table.Thins

theorem Table.ThinsTo.lasting (D : String → Prop) (n : String) : Lasting (Table.ThinsTo D n) where
  beside h := by
    obtain ⟨σ, h⟩ := h
    exact h.beside
  place s site h := by
    obtain ⟨σ, h⟩ := h
    exact ⟨σ, { h with
      beside := Beside.lasting.place s site h.beside, timely := (Timely.lasting.place s site ⟨rfl, h.timely⟩).2 }⟩
  access {t t'} s paths h := by
    obtain ⟨σ, h⟩ := h
    refine ⟨σ, { h with
      beside := Beside.lasting.access s paths h.beside, timely := (Timely.lasting.access s paths ⟨rfl, h.timely⟩).2
      accessed := fun x hx => ?_ }⟩
    rcases List.mem_cons.1 hx with rfl | hx
    · exact ⟨_, List.mem_cons_self, rfl, rfl, h.clock_eq s⟩
    · obtain ⟨x', hx', hlike⟩ := h.accessed x hx
      exact ⟨x', List.mem_cons_of_mem _ hx', hlike⟩
  tick s h := by
    obtain ⟨σ, h⟩ := h
    by_cases hs : s = []
    · exact hs ▸ ⟨_, h.tick_top⟩
    · refine ⟨σ, { h with
        beside := Beside.lasting.tick s h.beside, timely := (Timely.lasting.tick s ⟨rfl, h.timely⟩).2,
        clock := fun s' hs' => ?_, now := fun time hle => ?_, later := fun hD a ha hn ht hsome hlt => ?_ }⟩
      · rw [Table.clock_tick, Table.clock_tick, h.clock s' hs']
      · rw [Table.clock_tick, if_neg hs, Nat.add_zero] at hle ⊢
        exact h.now time hle
      · rw [Table.clock_tick, if_neg hs, Nat.add_zero] at hlt
        exact h.later hD a ha hn ht hsome hlt
  fail e h := by
    obtain ⟨σ, h⟩ := h
    exact ⟨σ, { h with beside := Beside.lasting.fail e h.beside, timely := (Timely.lasting.fail e ⟨rfl, h.timely⟩).2 }⟩
  renumber k h := by
    obtain ⟨σ, h⟩ := h
    exact ⟨σ, { h with beside := Beside.lasting.renumber k h.beside, timely := (Timely.lasting.renumber k ⟨rfl, h.timely⟩).2 }⟩
  redirect s reach name h := by
    obtain ⟨σ, h⟩ := h
    have hbeside := Beside.lasting.redirect s reach name h.beside
    unfold Table.redirect at hbeside ⊢
    split at hbeside
    · exact ⟨σ, h⟩
    · exact ⟨σ, { h with beside := hbeside, timely := ⟨h.timely.assigned, h.timely.accessed⟩ }⟩
    · exact ⟨σ, { h with beside := hbeside, timely := ⟨h.timely.assigned, h.timely.accessed⟩ }⟩
  assign s name source h := by
    obtain ⟨σ, h⟩ := h
    exact ⟨σ, h.assign_both (.of_source rfl (h.beside.home_eq name s) rfl)⟩

/-! ## Import statements that lose names -/

/-- Whether a module cannot be taken for one of `typing` where a path begins with `a`: it keeps its name, or the new one begins
otherwise, or the module does. -/
def ImportedName.isSafe (n : ImportedName) : Bool :=
  n.renamed.all fun r => r.toList.head?.any (· ≠ 'a') || n.beginnings.all fun b => ¬IsTyping b

/-- An import statement that may lose the names which it does not keep. -/
structure MayLose (D : String → Prop) (keep : Alias → Bool) (origin : String) (as : List Alias) : Prop where
  lost : ∀ a ∈ as, keep a = false → ∃ name, D name ∧ '.' ∉ name.toList ∧ a.bound = [name] ∧ a.imported = ⟨[name], none⟩ ∧
    (origin = "" → name.toList.head? = some 'a')
  origin : origin.toList.head? = some 'a' ∨ origin = "" ∧ ∀ a ∈ as, a.imported.isSafe = true

namespace MayLose
variable {D : String → Prop} {keep : Alias → Bool} {origin : String} {as : List Alias} (h : MayLose D keep origin as)
include h

/-- What is lost brings nothing of `typing`. -/
theorem silent {a : Alias} (ha : a ∈ as) (hlost : keep a = false) {path q : String}
    (hq : a.imported.qualify? origin path = some q) : ¬IsTyping q := by
  obtain ⟨name, -, -, -, himported, hhead⟩ := h.lost a ha hlost
  rcases h.origin with ho | ⟨rfl, -⟩
  · simp [IsTyping, ImportedName.head_of_origin ho hq]
  · intro ht
    rw [himported] at hq
    obtain ⟨b, hb, htb, -⟩ := ImportedName.typing_of_module hq ht
    rw [List.mem_singleton.1 hb, IsTyping, hhead rfl] at htb
    cases htb

/-- The name that is lost does not stand for anything of `typing` by the other names of the statement. -/
theorem isMute {a : Alias} (ha : a ∈ as) (hlost : keep a = false) (t : Table) : ∃ name, D name ∧ a.bound = [name] ∧
    Assignment.IsMute ⟨name, t.home name [], t.clock (t.home name []), some ⟨origin, as.map Alias.imported⟩⟩ := by
  obtain ⟨name, hD, hdot, hbound, -, hhead⟩ := h.lost a ha hlost
  refine ⟨name, hD, hbound, t.home_top name, hdot, fun path hpath q hq ht => ?_⟩
  simp only [Assignment.qualify, List.mem_filterMap, List.mem_map] at hq
  obtain ⟨_, ⟨c, hc, rfl⟩, hq⟩ := hq
  rcases h.origin with ho | ⟨rfl, hsafe⟩
  · rw [IsTyping, ImportedName.head_of_origin ho hq] at ht
    cases ht
  · -- the path begins with the lost name, hence neither like `typing` nor with the new name of a module of that kind
    have hpath : path.toList.head? = some 'a' := by
      obtain ⟨rest, hrest⟩ := List.isPrefixOf_iff_prefix.1 (isPrefix_of_mem_pathBeginnings hpath)
      rw [← hrest, List.head?_append, hhead rfl]
      rfl
    obtain ⟨b, hb, htb, hprefix⟩ := ImportedName.typing_of_module hq ht
    cases hr : c.imported.renamed with
    | none =>
      rw [hr] at hprefix
      have htp := isTyping_of_beginning htb hprefix
      rw [IsTyping, hpath] at htp
      cases htp
    | some r =>
      rw [hr] at hprefix
      obtain ⟨rest, hrest⟩ := List.isPrefixOf_iff_prefix.1 hprefix
      have hr : r.toList.head?.any (· ≠ 'a') = true := by
        have hsafe := hsafe c hc
        rw [ImportedName.isSafe, hr, Option.all_some, Bool.or_eq_true, List.all_eq_true] at hsafe
        exact hsafe.resolve_right fun hnone => of_decide_eq_true (hnone b hb) htb
      cases hhead : r.toList.head? with
      | none => simp [hhead] at hr
      | some k =>
        rw [← hrest, Option.getD_some, List.head?_append, hhead] at hpath
        cases hpath
        simp [hhead] at hr

/-- A name of the statement is left as it is but for the names that are lost. -/
theorem leftAs (name : String) (time time' : Nat) :
    Assignment.LeftAs D ⟨name, [], time, some ⟨origin, as.map Alias.imported⟩⟩
      ⟨name, [], time', some ⟨origin, (as.filter keep).map Alias.imported⟩⟩ := by
  refine ⟨⟨rfl, rfl, rfl, fun path _ q ht => ?_⟩, fun i hi => ?_⟩
  · simp only [Assignment.qualify, List.mem_filterMap, List.mem_map, List.mem_filter]
    constructor
    · rintro ⟨_, ⟨c, hc, rfl⟩, hq⟩
      exact ⟨_, ⟨c, hc.1, rfl⟩, hq⟩
    · rintro ⟨_, ⟨c, hc, rfl⟩, hq⟩
      refine ⟨_, ⟨c, ⟨hc, ?_⟩, rfl⟩, hq⟩
      by_contra hlost
      exact h.silent hc (Bool.eq_false_iff.2 hlost) hq ht
  · cases hi
    refine ⟨_, rfl, rfl, fun e he => ?_⟩
    obtain ⟨c, hc, rfl⟩ := List.mem_map.1 he
    cases hkeep : keep c with
    | true => exact .inl (List.mem_map_of_mem (List.mem_filter.2 ⟨hc, hkeep⟩))
    | false =>
      obtain ⟨name, hD, -, -, himported, -⟩ := h.lost c hc hkeep
      exact .inr ⟨rfl, name, hD, himported⟩

variable {n : String} {σ : Nat → Nat}

/-- The names of the statement one after the other, those that are lost only in the first table. -/
theorem foldl_thins {bs : List Alias} (hbs : bs ⊆ as) : ∀ t t' : Table, t.Thins D n σ t' →
    ((bs.flatMap Alias.bound).foldl (fun t n => t.assign [] n (some ⟨origin, as.map Alias.imported⟩)) t).Thins D n σ
      (((bs.filter keep).flatMap Alias.bound).foldl
        (fun t n => t.assign [] n (some ⟨origin, (as.filter keep).map Alias.imported⟩)) t') := by
  have hkept : ∀ (bound : List String) (t t' : Table), t.Thins D n σ t' →
      (bound.foldl (fun t n => t.assign [] n (some ⟨origin, as.map Alias.imported⟩)) t).Thins D n σ
        (bound.foldl (fun t n => t.assign [] n (some ⟨origin, (as.filter keep).map Alias.imported⟩)) t') := by
    intro bound
    induction bound with
    | nil => exact fun _ _ ht => ht
    | cons name bound ih =>
      intro t t' ht
      refine ih _ _ (ht.assign_both ?_)
      rw [t.home_top, t'.home_top]
      exact h.leftAs name _ _
  induction bs with
  | nil => exact fun _ _ ht => ht
  | cons b bs ih =>
    intro t t' ht
    rw [List.cons_subset] at hbs
    rw [List.flatMap_cons, List.foldl_append]
    cases hkeep : keep b with
    | true =>
      rw [List.filter_cons_of_pos hkeep, List.flatMap_cons, List.foldl_append]
      exact ih hbs.2 _ _ (hkept _ t t' ht)
    | false =>
      obtain ⟨name, hD, hbound, hm⟩ := h.isMute hbs.1 hkeep t
      rw [List.filter_cons_of_neg (by simp [hkeep]), hbound]
      exact ih hbs.2 _ _ (ht.assign_lost hD hm)

/-- The statement itself, if it keeps some name. -/
theorem scan_thins {t t' : Table} (ht : t.ThinsTo D n t') :
    (scanAliases [] origin as t).ThinsTo D n (scanAliases [] origin (as.filter keep) t') := by
  obtain ⟨σ, ht⟩ := ht
  exact (Table.ThinsTo.lasting D n).tick [] ⟨σ, h.foldl_thins (List.Subset.refl as) t t' ht⟩

/-- The statement itself, if it goes. -/
theorem scan_lost (hnone : as.filter keep = []) {t t' : Table} (ht : t.ThinsTo D n t') (hpast : ¬D n → t.IsPast n) :
    (scanAliases [] origin as t).ThinsTo D n t' := by
  obtain ⟨σ, ht⟩ := ht
  have hfold := h.foldl_thins (List.Subset.refl as) t t' ht
  rw [hnone] at hfold
  refine ⟨σ, hfold.tick_lost fun hn => ?_⟩
  -- only names in `D` were imported
  have hbound : ∀ name ∈ as.flatMap Alias.bound, name ≠ n := by
    rintro name hname rfl
    obtain ⟨a, ha, hname⟩ := List.mem_flatMap.1 hname
    obtain ⟨name', hD, -, hb, -, -⟩ := h.lost a ha (by simpa using List.filter_eq_nil_iff.1 hnone a ha)
    rw [hb, List.mem_singleton] at hname
    exact hn (hname ▸ hD)
  have hkeep : ∀ (bound : List String) (source : Option ImportSource) (t : Table), (∀ name ∈ bound, name ≠ n) → t.IsPast n →
      (bound.foldl (fun t n => t.assign [] n source) t).IsPast n := by
    intro bound source
    induction bound with
    | nil => exact fun _ _ hp => hp
    | cons name bound ih =>
      intro t hne hp
      rw [List.forall_mem_cons] at hne
      refine ih _ hne.2 fun a ha hname => ?_
      rcases List.mem_cons.1 ha with rfl | ha
      · exact absurd hname hne.1
      · exact hp a ha hname
  exact hkeep _ _ t hbound (hpast hn)

end MayLose

/-- Only the names of aliases matter to the scan. -/
theorem scanAliases_bare {as bs : List Alias} (h : as.map Alias.bare = bs.map Alias.bare) (s : Scope) (origin : String)
    (t : Table) : scanAliases s origin as t = scanAliases s origin bs t := by
  have himported : ∀ cs : List Alias, cs.map Alias.imported = (cs.map Alias.bare).map Alias.imported := fun cs => by
    rw [List.map_map]
    rfl
  have hbound : ∀ cs : List Alias, cs.flatMap Alias.bound = (cs.map Alias.bare).flatMap Alias.bound := fun cs => by
    rw [List.flatMap_map]
    rfl
  rw [scanAliases, scanAliases, himported as, himported bs, hbound as, hbound bs, h]

/-! ## Small statements -/

/-- Whether no module of an `import` statement can be taken for one of `typing` by mistake. -/
def Small.isSafe : Small → Bool
  | .importNames _ as => as.all fun a => a.imported.isSafe
  | _ => true

/-- A statement stays as it is, or it stands at the top level and loses names there. -/
def Small.LosesAtTop (u : Usage) (s : Scope) (x : Small) : Prop := x.isKept u s = true ∨ s = [] ∧ x.isSafe = true

instance (u : Usage) (s : Scope) (x : Small) : Decidable (x.LosesAtTop u s) := inferInstanceAs (Decidable (_ ∨ _))

theorem Small.dropAliases_kept {u : Usage} {s : Scope} {x : Small} (hk : x.isKept u s = true) (hf : x.Filled) :
    x.dropAliases u s = some x := by
  have hsame : (x.receive []).1.dropAliases u s = some x :=
    Small.dropAliases_receive (fun _ ha => absurd ha List.not_mem_nil) hk (fun _ => .inl rfl) hf (List.Subset.refl [])
  rwa [Small.receive_nil] at hsame

section
variable {D : String → Prop} {n : String} {u : Usage} (hD : ∀ name, u.inUse [] name = false → D name)
include hD

theorem Usage.drops_lost {a : Alias} {names : List String} (hnames : ∀ name ∈ names, '.' ∉ name.toList)
    (h : u.drops [] names a = true) :
    ∃ name ∈ names, D name ∧ '.' ∉ name.toList ∧ a.bound = [name] ∧ a.imported = ⟨[name], none⟩ := by
  simp only [Usage.drops, Bool.and_eq_true, Option.isNone_iff_eq_none, List.contains_iff_mem, Bool.not_eq_true'] at h
  obtain ⟨⟨has, hpath⟩, hunused⟩ := h
  have hdot := hnames _ hpath
  exact ⟨a.path, hpath, hD _ hunused, hdot, Alias.bound_of_plain has hdot, Alias.imported_of_plain has hdot⟩

/-- Modules that are imported as a whole. -/
theorem mayLose_packages {as : List Alias} (h : ∀ a ∈ as, a.imported.isSafe = true) :
    MayLose D (fun a => !u.drops [] removablePackages a) "" as := by
  refine ⟨fun a ha hlost => ?_, .inr ⟨rfl, h⟩⟩
  have hdots : ∀ name ∈ removablePackages, '.' ∉ name.toList := by decide
  obtain ⟨name, hname, hn, hdot, hbound, himported⟩ := Usage.drops_lost hD hdots (by simpa using hlost)
  have hhead : ∀ name ∈ removablePackages, name.toList.head? = some 'a' := by decide
  exact ⟨name, hn, hdot, hbound, himported, fun _ => hhead name hname⟩

/-- Names from a module that may lose some. -/
theorem mayLose_names {source : String} (hsource : removableNames source ≠ []) (as : List Alias) :
    MayLose D (fun a => !u.drops [] (removableNames source) a) source as := by
  have hboth : source.toList.head? = some 'a' ∧ ∀ name ∈ removableNames source, '.' ∉ name.toList := by
    unfold removableNames at hsource ⊢
    split
    · next hs =>
      subst hs
      decide
    · split
      · next hs =>
        subst hs
        decide
      · next hattr hattrs => simp [hattr, hattrs] at hsource
  refine ⟨fun a ha hlost => ?_, .inl hboth.1⟩
  obtain ⟨name, -, hn, hdot, hbound, himported⟩ := Usage.drops_lost hD hboth.2 (by simpa using hlost)
  refine ⟨name, hn, hdot, hbound, himported, ?_⟩
  rintro rfl
  cases hboth.1

variable {onText : Place → String → Table → Table} (ht : ParallelTexts (Table.ThinsTo D n) onText)
include ht

/-- A small statement that stays as it is, or loses names at the top level. -/
theorem Small.scan_thins {x : Small} {s : Scope} (hf : x.Filled) (hx : x.LosesAtTop u s)
    {t t' : Table} (h : t.ThinsTo D n t') (hpast : s = [] → ¬D n → t.IsPast n) :
    (scanSmall onText (.of s) x t).ThinsTo D n ((x.dropAliases u s).elim t' fun y => scanSmall onText (.of s) y t') := by
  by_cases hk : x.isKept u s = true
  · rw [Small.dropAliases_kept hk hf]
    exact scanSmall_parallel ht (.of s) x t t' h
  · obtain ⟨rfl, hsafe⟩ := hx.resolve_left hk
    cases x with
    | importNames opening as =>
      have hl : MayLose D (fun a => !u.drops [] removablePackages a) "" as :=
        mayLose_packages hD (by simpa [Small.isSafe] using hsafe)
      simp only [Small.dropAliases]
      split
      · next hnone => exact hl.scan_lost hnone h (hpast rfl)
      · have hbare := closeAliases_bare (u.drops [] removablePackages) as
          (as.filter fun a => !u.drops [] removablePackages a)
        show (scanAliases [] "" as t).ThinsTo D n (scanAliases [] "" _ t')
        rw [scanAliases_bare hbare]
        exact hl.scan_thins h
    | importFrom f =>
      cases habs : f.absolute? with
      | none => simp [Small.isKept, habs] at hk
      | some source =>
        cases himp : f.imported with
        | star => simp [Small.isKept, habs, himp] at hk
        | names parens as =>
          have hsource : removableNames source ≠ [] := by
            intro hnone
            simp [Small.isKept, habs, himp, hnone, Usage.drops] at hk
          have hl := mayLose_names hD hsource as
          have hkept := keepAliases_bare (u.drops [] (removableNames source)) as []
          have horigin : f.origin = source := FromImport.origin_of_absolute habs
          simp only [Small.dropAliases, habs, himp]
          show (scanAliases [] f.origin f.imported.aliases t).ThinsTo D n _
          rw [horigin, himp]
          split
          · next hnone =>
            rw [hnone] at hkept
            exact hl.scan_lost (List.map_eq_nil_iff.1 hkept.symm) h (hpast rfl)
          · have hbare := (closeAliases_bare (u.drops [] (removableNames source)) as _).trans hkept
            have hscan := hl.scan_thins h
            rw [← scanAliases_bare hbare] at hscan
            show (scanAliases [] source as t).ThinsTo D n (scanAliases [] f.origin _ t')
            rw [horigin]
            exact hscan
    | _ => exact absurd rfl hk

end

/-! ## Between two statements -/

theorem source_of_sourceless {xs : List Step} (h : ∀ x ∈ xs, x.Sourceless) (hnone : xs.flatMap Step.bindings = []) {s : Scope}
    {name : String} {source : Option ImportSource} (hb : .assign s name source ∈ xs.flatMap Step.binds) : source = none := by
  obtain ⟨x, hx, hb⟩ := List.mem_flatMap.1 hb
  cases x with
  | bind b => exact h _ hx s name source (congrArg Step.bind (List.mem_singleton.1 hb).symm)
  | imports bs =>
    obtain rfl : bs = [] := List.flatMap_eq_nil_iff.1 hnone _ hx
    cases hb

/-- A table between two statements of the top level. -/
structure Table.Between (N : Effect → Prop) (n : String) (t : Table) : Prop where
  timely : t.Timely
  tidy : t.Tidy N
  past : t.IsPast n

section
variable {N : Effect → Prop} {n : String} {onText : Place → String → Table → Table} (hn : ¬N (.loud n))
variable (hq : QuietTexts N onText) (htime : ParallelTexts (fun t t' => t' = t ∧ t.Timely) onText)
include hn hq htime

theorem Small.scan_between {x : Small} (hz : ∀ z ∈ x.heard, z.Quiet N) {t : Table} (h : t.Between N n) :
    (scanSmall onText (.of []) x t).Between N n := by
  have hg := scanSmall_scans hq (s := []) rfl x hz t h.tidy
  refine ⟨(scanSmall_parallel htime (.of []) x t t ⟨rfl, h.timely⟩).2, hg.tidy, ?_⟩
  have himports : ∀ origin as, (scanAliases [] origin as t).IsPast n := by
    intro origin as
    have hfold : Parallel (fun t t' => t' = t ∧ t.Timely) fun t =>
        (as.flatMap Alias.bound).foldl (fun t n => t.assign [] n (some ⟨origin, as.map Alias.imported⟩)) t :=
      .foldl (fun name => .assign htime.lasting [] name _) _
    exact (hfold t t ⟨rfl, h.timely⟩).2.isPast_tick n
  have hother : (x.steps []).flatMap Step.bindings = [] → (scanSmall onText (.of []) x t).IsPast n :=
    fun hnone => hg.isPast hn (fun _ _ => source_of_sourceless (x.steps_sourceless []) hnone) h.past
  cases x with
  | importNames o as => exact himports "" as
  | importFrom f => exact himports f.origin f.imported.aliases
  | _ => exact hother (by simp [Small.steps, storeStep_bindings, Step.bindings])

theorem scanHeader_between {x : Header} (hz : ∀ z ∈ x.noises, z.Quiet N) {t : Table} (h : t.Between N n) :
    (scanHeader onText (.of []) x t).Between N n := by
  have hg := scanHeader_scans hq (s := []) rfl x hz t h.tidy
  refine ⟨(scanHeader_parallel htime (.of []) x t t ⟨rfl, h.timely⟩).2, hg.tidy,
    hg.isPast hn (fun _ _ => source_of_sourceless (x.steps_sourceless []) ?_) h.past⟩
  cases x with
  | word | test => rfl
  | _ => exact storeStep_bindings _ _

/-- Names that a definition makes global are past when it ends. -/
theorem Node.scan_between (x : Node) : (∀ z ∈ x.gather listening [], z.Quiet N) → ∀ t : Table, t.Between N n →
    (x.scan onText (.of []) t).Between N n := by
  have hitems : ∀ is : List Item, (∀ z ∈ gatherItems listening [] is, z.Quiet N) → ∀ t : Table, t.Between N n →
      (scanItems onText (.of []) is t).Between N n := by
    intro is
    induction is with
    | nil => exact fun _ t h => h
    | cons i is ih =>
      intro hz t h
      rw [gatherItems, List.flatMap_cons, List.forall_mem_append] at hz
      exact ih hz.2 _ (Small.scan_between hn hq htime hz.1 h)
  induction x using Node.induct with
  | line l => exact hitems l.items
  | inline o is tr => exact hitems is
  | compound cs ih | block o i xs f ih => exact ih
  | funcDef head b | classDef head b =>
    intro hz t h
    have hbody := Node.scan_parallel htime (.suite b) (Place.of [head.frame])
    have haround := (head.scanAround_related htime (.of []) hbody t t ⟨rfl, h.timely⟩).2
    have htidy := (Node.scan_scans hq (.stmt _) [] rfl hz t h.tidy).tidy
    exact ⟨(htime.lasting.tick [] ⟨rfl, haround⟩).2, htidy, haround.isPast_tick n⟩
  | noClause | noStmt => exact fun _ t h => h
  | clause head b cs ihb ihc =>
    intro hz t h
    have hz : ∀ z ∈ head.header.noises ++ b.gather listening [] ++ gatherClauses listening [] cs, z.Quiet N := hz
    rw [List.forall_mem_append, List.forall_mem_append] at hz
    exact ihc hz.2 _ (ihb hz.1.2 _ (scanHeader_between hn hq htime hz.1.1 h))
  | next x xs ihx ihxs =>
    intro hz t h
    have hz : ∀ z ∈ x.gather listening [] ++ gatherStmts listening [] xs, z.Quiet N := hz
    rw [List.forall_mem_append] at hz
    exact ihxs hz.2 _ (ihx hz.1 t h)

/-! ## Nodes -/

variable {D : String → Prop} {u : Usage} (hD : ∀ name, u.inUse [] name = false → D name)
variable (ht : ParallelTexts (Table.ThinsTo D n) onText)
include hD ht

theorem scanItems_thins {s : Scope} {is : List Item} (hy : ∀ y ∈ gatherItems placedSmalls s is, y.2.Filled ∧ y.2.LosesAtTop u y.1)
    (hz : ∀ z ∈ gatherItems listening s is, z.Quiet N) : ∀ t t' : Table, t.ThinsTo D n t' →
    (s = [] → ¬D n → t.Between N n) →
    (scanItems onText (.of s) is t).ThinsTo D n (scanItems onText (.of s) (is.filterMap (Item.dropAliases u s)) t') := by
  induction is with
  | nil => exact fun t t' h _ => h
  | cons i is ih =>
    intro t t' h hbetween
    rw [gatherItems, List.flatMap_cons, List.forall_mem_append] at hy hz
    obtain ⟨hfilled, hloses⟩ := hy.1 (s, i.stmt) (List.mem_singleton_self _)
    have hfirst := Small.scan_thins hD ht hfilled hloses h fun hs hn' => (hbetween hs hn').past
    have hrest : s = [] → ¬D n → (scanSmall onText (.of s) i.stmt t).Between N n := by
      rintro rfl hn'
      exact Small.scan_between hn hq htime hz.1 (hbetween rfl hn')
    have hwhole := ih hy.2 hz.2 _ _ hfirst hrest
    rw [List.filterMap_cons, Item.dropAliases]
    cases hd : i.stmt.dropAliases u s with
    | none =>
      rw [hd] at hwhole
      exact hwhole
    | some y =>
      rw [hd] at hwhole
      exact hwhole

/-- A node that loses imports at the top level leaves a table without them. -/
theorem Node.removeImports_thins (x : Node) : ∀ s, (∀ y ∈ x.gather placedSmalls s, y.2.Filled ∧ y.2.LosesAtTop u y.1) →
    s.isNamed = true → (∀ z ∈ x.gather listening s, z.Quiet N) → ∀ t t' : Table, t.ThinsTo D n t' →
    (s = [] → ¬D n → t.Between N n) →
    (x.scan onText (.of s) t).ThinsTo D n ((x.removeImports u s).scan onText (.of s) t') := by
  induction x using Node.induct with
  | line l =>
    intro s hy _ hz t t' h hbetween
    have hitems := scanItems_thins hn hq htime hD ht hy hz t t' h hbetween
    rw [Node.removeImports, Stmt.removeImports]
    split
    · next he =>
      rw [he] at hitems
      exact hitems
    · exact hitems
  | inline o is tr => exact fun s hy _ hz t t' h hbetween => scanItems_thins hn hq htime hD ht hy hz t t' h hbetween
  | compound cs ih | block o i xs f ih => exact ih
  | funcDef head b ih | classDef head b ih =>
    intro s hy hs hz t t' h _
    have hz : ∀ z ∈ head.noises ++ b.gather listening (head.frame :: s), z.Quiet N := hz
    have hbody := fun t t' h => ih (head.frame :: s) hy hs (List.forall_mem_append.1 hz).2 t t' h fun hnil =>
      absurd hnil (List.cons_ne_nil _ _)
    exact ht.lasting.tick s (head.scanAround_related ht (.of s) hbody t t' h)
  | noClause | noStmt => exact fun s _ _ _ t t' h _ => h
  | clause head b cs ihb ihc =>
    intro s hy hs hz t t' h hbetween
    have hy : ∀ y ∈ b.gather placedSmalls s ++ gatherClauses placedSmalls s cs, y.2.Filled ∧ y.2.LosesAtTop u y.1 := hy
    have hz : ∀ z ∈ head.header.noises ++ b.gather listening s ++ gatherClauses listening s cs, z.Quiet N := hz
    rw [List.forall_mem_append] at hy
    rw [List.forall_mem_append, List.forall_mem_append] at hz
    have hheader : s = [] → ¬D n → (scanHeader onText (.of s) head.header t).Between N n := by
      rintro rfl hn'
      exact scanHeader_between hn hq htime hz.1.1 (hbetween rfl hn')
    have hsuite := ihb s hy.1 hs hz.1.2 _ _ (scanHeader_parallel ht (.of s) head.header t t' h) hheader
    refine ihc s hy.2 hs hz.2 _ _ hsuite ?_
    rintro rfl hn'
    exact Node.scan_between hn hq htime (.suite b) hz.1.2 _ (hheader rfl hn')
  | next x xs ihx ihxs =>
    intro s hy hs hz t t' h hbetween
    have hy : ∀ y ∈ x.gather placedSmalls s ++ gatherStmts placedSmalls s xs, y.2.Filled ∧ y.2.LosesAtTop u y.1 := hy
    have hz : ∀ z ∈ x.gather listening s ++ gatherStmts listening s xs, z.Quiet N := hz
    rw [List.forall_mem_append] at hy hz
    have hfirst := ihx s hy.1 hs hz.1 t t' h hbetween
    have hrest : s = [] → ¬D n → ((Node.stmt x).scan onText (.of s) t).Between N n := by
      rintro rfl hn'
      exact Node.scan_between hn hq htime (.stmt x) hz.1 t (hbetween rfl hn')
    have hwhole := ihxs s hy.2 hs hz.2 _ _ hfirst hrest
    rw [Node.removeImports] at hwhole ⊢
    rw [removeFromStmts]
    cases hd : x.removeImports u s with
    | none =>
      rw [Node.removeImports, hd] at hwhole
      exact hwhole
    | some y =>
      rw [Node.removeImports, hd] at hwhole
      exact hwhole

end

/-! ## References -/

namespace Table.Thins
variable {D : String → Prop} {n : String} {σ : Nat → Nat} {t t' : Table} (h : t.Thins D n σ t')
include h

theorem lookup_eq_nil {s : Scope} {name : String} (hnil : t.lookup s name = []) : t'.lookup s name = [] := by
  obtain ⟨z, hz, hz'⟩ := h.beside.lookup_own s name
  rw [hz] at hnil
  rw [hz']
  refine List.eq_nil_iff_forall_not_mem.2 fun a' ha' => ?_
  obtain ⟨hmem, hown⟩ := List.mem_filter.1 ha'
  obtain ⟨a, ha, hname, hscope⟩ := h.old a' hmem
  have hfound : a ∈ t.own z name := List.mem_filter.2 ⟨ha, by rw [hname, hscope]; exact hown⟩
  exact absurd (hnil ▸ hfound) List.not_mem_nil

/-- An access to a name that is found in both tables is to that name in both. -/
theorem accessed_eq {x x' : Access} (hpaths : x'.paths = x.paths) (hscope : x'.scope = x.scope)
    (hfound : t.lookup x.scope (t.accessed x) ≠ []) (hfound' : t'.lookup x.scope (t.accessed x) ≠ []) :
    t'.accessed x' = t.accessed x := by
  have hlast : ∀ {p}, x.paths.getLast? = some p → p ∈ x.paths := List.mem_of_getLast?
  unfold Table.accessed at hfound hfound' ⊢
  rw [hpaths, hscope]
  cases hfind : x.paths.find? fun p => !(t.lookup x.scope p).isEmpty with
  | none =>
    cases hpath : x.paths.getLast? with
    | none => rw [List.getLast?_eq_none_iff.1 hpath]
              rfl
    | some p =>
      rw [hfind, hpath] at hfound
      have hempty := List.find?_eq_none.1 hfind p (hlast hpath)
      simp only [Bool.not_eq_true, Bool.not_eq_false', List.isEmpty_iff] at hempty
      exact absurd hempty hfound
  | some p =>
    rw [hfind] at hfound'
    obtain ⟨-, longer, shorter, hsplit, hlonger⟩ := List.find?_eq_some_iff_append.1 hfind
    have hfind' : (x.paths.find? fun p => !(t'.lookup x.scope p).isEmpty) = some p := by
      refine List.find?_eq_some_iff_append.2 ⟨by simpa using hfound', longer, shorter, hsplit, fun q hq => ?_⟩
      simpa using h.lookup_eq_nil (by simpa using hlonger q hq)
    rw [hfind']

section
variable {x x' : Access} (hx : x ∈ t.accesses) (hscope : x'.scope = x.scope) (htime : x'.time = timeIn σ x.scope x.time)
include hx hscope htime

/-- An import that comes before an access does so afterwards: it is told from what comes later. -/
theorem precedes {a a' : Assignment} (ha : a ∈ t.assignments) (hsome : a.source.isSome = true)
    (htop : a.scope = [] → a.name = n ∧ ¬D n) (halike : a.Alike a') (hat : a'.time = timeIn σ a.scope a.time)
    (hp : a.precedes x = true) : a'.precedes x' = true := by
  simp only [Assignment.precedes, Bool.or_eq_true, decide_eq_true_eq, halike.scope, hscope] at hp ⊢
  by_cases hsame : a.scope = x.scope
  · have hlt := hp.resolve_left fun hne => hne hsame
    right
    rw [hat, htime, hsame]
    unfold timeIn
    split
    · next hnil =>
      have hatop := hsame.trans hnil
      obtain ⟨hname, hn⟩ := htop hatop
      have hclock : a.time < t.clock [] := Nat.lt_of_lt_of_le hlt (h.timely.accessed x hx hnil)
      exact Nat.lt_of_lt_of_le (h.later hn a ha hname hatop hsome hclock) (h.mono _ _ hlt)
    · exact hlt
  · exact .inl hsame

omit hx

/-- What comes later inside of a definition stays, and comes later afterwards. -/
theorem not_precedes (hinner : x.scope ≠ []) {b : Assignment} (hb : b ∈ t.assignments) (hp : b.precedes x = false) :
    ∃ b' ∈ t'.assignments, b.Alike b' ∧ b'.precedes x' = false := by
  simp only [Assignment.precedes, Bool.or_eq_false_iff, decide_eq_false_iff_not, not_not] at hp
  have hbs : b.scope ≠ [] := fun hnil => hinner (hp.1 ▸ hnil)
  obtain ⟨b', hb', hleft, hbt⟩ := (h.left b hb).resolve_left fun hlost => hbs hlost.2
  refine ⟨b', hb', hleft.alike, ?_⟩
  rw [timeIn, if_neg hbs] at hbt
  rw [timeIn, if_neg hinner] at htime
  simp only [Assignment.precedes, Bool.or_eq_false_iff, decide_eq_false_iff_not, not_not, hleft.alike.scope, hscope, hbt, htime]
  exact hp

include hx

/-- An access refers to the imports that it referred to. -/
theorem mem_references (hpaths : x'.paths = x.paths) {a a' : Assignment} (ha : a ∈ t.references x)
    (hsome : a.source.isSome = true) (htop : a.scope = [] → a.name = n ∧ ¬D n) (ha' : a' ∈ t'.assignments)
    (halike : a.Alike a') (hat : a'.time = timeIn σ a.scope a.time) : a' ∈ t'.references x' := by
  rw [Table.mem_references_iff, hscope]
  rcases Table.mem_references_iff.1 ha with ⟨hfound, hp⟩ | ⟨f, outer, hs, hfound, b, hb, hbp⟩
  · have hfound' := h.beside.mem_lookup hfound ha' halike
    rw [h.accessed_eq hpaths hscope (List.ne_nil_of_mem hfound) (List.ne_nil_of_mem hfound')]
    exact .inl ⟨hfound', h.precedes hx hscope htime (Table.mem_lookup hfound).1 hsome htop halike hat hp⟩
  · obtain ⟨b', hb', hblike, hbp'⟩ := h.not_precedes hscope htime (by simp [hs]) (Table.mem_lookup hb).1 hbp
    have hfound' := h.beside.mem_lookup hb hb' hblike
    rw [h.accessed_eq hpaths hscope (List.ne_nil_of_mem hb) (List.ne_nil_of_mem hfound')]
    exact .inr ⟨f, outer, hs, h.beside.mem_lookup hfound ha' halike, b', hfound', hbp'⟩

end

end Table.Thins

/-! ## Modules -/

theorem Node.gather_filled (x : Node) : x.Filled → ∀ s, ∀ y ∈ x.gather placedSmalls s, y.2.Filled := by
  have hitems : ∀ {is : List Item}, itemsFilled is → ∀ s, ∀ y ∈ gatherItems placedSmalls s is, y.2.Filled := by
    intro is hf s y hy
    obtain ⟨i, hi, hy⟩ := List.mem_flatMap.1 hy
    rw [List.mem_singleton.1 hy]
    exact hf.2 i hi
  induction x using Node.induct with
  | line l => exact hitems
  | inline o is tr => exact hitems
  | compound cs ih => exact fun hf => ih hf.2
  | block o i xs f ih => exact ih
  | funcDef head b ih | classDef head b ih => exact fun hf s => ih hf (head.frame :: s)
  | noClause | noStmt => exact fun _ s y hy => absurd hy List.not_mem_nil
  | clause head b cs ihb ihc => exact fun hf s => List.forall_mem_append.2 ⟨ihb hf.1 s, ihc hf.2 s⟩
  | next x xs ihx ihxs => exact fun hf s => List.forall_mem_append.2 ⟨ihx hf.1 s, ihxs hf.2 s⟩

/-- All imports that a module is about to lose stand at its top level. One that goes inside of a definition could uncover
another import of the name. -/
def Module.LosesAtTop (m : Module) : Prop := ∀ y ∈ m.gather placedSmalls, y.2.LosesAtTop m.usage y.1

instance (m : Module) : Decidable m.LosesAtTop := inferInstanceAs (Decidable (∀ y ∈ m.gather placedSmalls, _))

/-- The module without the imports that may go and are not in use. -/
def Module.lightened (m : Module) : Module := { m with body := removeFromStmts m.usage [] m.body }

section
variable {m : Module} (hfilled : ∀ y ∈ m.gather placedSmalls, y.2.Filled) (hloses : m.LosesAtTop)
include hfilled hloses

theorem Module.table_thins {n : String} (hn : ¬m.Makes (.loud n)) :
    m.table.ThinsTo (fun name => m.usage.inUse [] name = false) n m.lightened.table := by
  have hstart : ∀ fresh, (Table.empty fresh).Between m.Makes n := fun fresh =>
    ⟨⟨fun _ ha => absurd ha List.not_mem_nil, fun _ hx => absurd hx List.not_mem_nil⟩, fun _ hr => absurd hr List.not_mem_nil,
      fun _ ha => absurd ha List.not_mem_nil⟩
  exact Node.removeImports_thins hn (scanHintText_quiet _) (scanHintText_parallel Table.Timely.lasting) (fun _ h => h)
    (scanHintText_parallel (Table.ThinsTo.lasting _ n)) (.stmts m.body) [] (fun y hy => ⟨hfilled y hy, hloses y hy⟩) rfl
    m.quiet_makes _ _ ⟨_, .refl m.sites⟩ fun _ _ => hstart m.sites

/-- An import that was used still is. -/
theorem Module.usesImport_lightened {b : Binding} {n : String} (hbound : b.imported.bound = [n])
    (himported : b.imported.imported = ⟨[n], none⟩) (hn : ¬m.Makes (.loud n)) (h : m.UsesImport b) :
    m.lightened.UsesImport b := by
  obtain ⟨σ, hthins⟩ := Module.table_thins hfilled hloses hn
  have hmentioned : m.lightened.mentioned = m.mentioned :=
    Module.mentioned_eq (removeImports_importless otherSmalls_importless m.usage (.stmts m.body) [])
      (fun _ => removeImports_importless (quoting_importless _) m.usage (.stmts m.body) []) hthins.beside
  refine h.imp (fun hname => hmentioned ▸ hname) ?_
  rintro ⟨x, hx, a, ha, hmakes, hhome, i, hi, horigin, hnames⟩
  obtain ⟨x', hx', hpaths, hscope, htime⟩ := hthins.accessed x hx
  obtain ⟨s, hlookup⟩ := Table.lookup_of_references ha
  have hmem := (Table.mem_lookup hlookup).1
  have hname : a.name = n := List.mem_singleton.1 (hbound ▸ hmakes)
  have hsome : a.source.isSome = true := by rw [hi]; rfl
  -- at the top level a name that is referred to is in use
  have hused : a.scope = [] → m.usage.inUse [] n = true := fun htop =>
    (m.usage.inUse_iff [] n).2 (.inr ⟨a, List.mem_filter.2 ⟨hmem, by simp [hname, htop]⟩, hsome, x, hx, ha⟩)
  have hkept : ¬(m.usage.inUse [] a.name = false ∧ a.scope = []) := fun hlost => by
    rw [hname, hused hlost.2] at hlost
    cases hlost.1
  obtain ⟨a', ha', hleft, hat⟩ := (hthins.left a hmem).resolve_left hkept
  have href := hthins.mem_references hx hscope htime hpaths ha hsome (fun htop => ⟨hname, by simp [hused htop]⟩) ha'
    hleft.alike hat
  obtain ⟨i', hi', horigin', hnames'⟩ := hleft.source i hi
  refine ⟨x', hx', a', href, hleft.alike.name ▸ hmakes, ?_, i', hi', horigin'.trans horigin, ?_⟩
  · rw [hthins.beside.home_eq, hleft.alike.name, hleft.alike.scope, hhome]
  · refine (hnames' _ hnames).resolve_right ?_
    rintro ⟨htop, name, hlost, heq⟩
    obtain rfl : name = n := by simpa [himported] using heq.symm
    rw [hused htop] at hlost
    cases hlost

end

end AttrsUpgrade
