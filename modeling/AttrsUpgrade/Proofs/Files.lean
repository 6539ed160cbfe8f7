import AttrsUpgrade.Files.CommandLine
import AttrsUpgrade.Proofs.Carryover
/-!
# Files of one run

A run takes its files one after the other, each once, and carries one session through all of them. `turns` lists which session
comes to which file; what a run prints, writes and counts is the sum over its turns (`upgradeFiles_eq`). A turn comes to what
it comes to in a run of its own as long as no file before has left the session inside of a class and what is left decides
nothing in the file: the state that comes to it agrees with a fresh one on the small statements before its first class.
-/

namespace AttrsUpgrade

/-! ## The order of the files -/

/-- Each path comes once, and after those with a smaller text. -/
def Ordered (ps : List Path) : Prop := ps.Pairwise fun p q => p ≠ q ∧ p.text ≤ q.text

theorem mem_insertPath {p q : Path} {ps : List Path} : q ∈ insertPath p ps ↔ q = p ∨ q ∈ ps := by
  induction ps with
  | nil => simp [insertPath]
  | cons z zs ih =>
    unfold insertPath
    split
    · rename_i hz
      subst hz
      simp
    · split
      · simp
      · simp only [List.mem_cons, ih]
        exact or_left_comm

theorem insertPath_ordered {p : Path} {ps : List Path} (h : Ordered ps) : Ordered (insertPath p ps) := by
  induction ps with
  | nil => exact List.pairwise_singleton _ _
  | cons q qs ih =>
    obtain ⟨hq, hqs⟩ := List.pairwise_cons.1 h
    unfold insertPath
    split
    · exact h
    · rename_i hne
      split
      · -- the path comes first, for the others are not smaller than `q`
        rename_i hlt
        refine List.pairwise_cons.2 ⟨?_, h⟩
        intro z hz
        have hle : q.text ≤ z.text := by
          rcases List.mem_cons.1 hz with rfl | hz
          · exact String.le_refl _
          · exact (hq z hz).2
        refine ⟨?_, String.le_trans (String.not_lt.1 (String.lt_asymm hlt)) hle⟩
        rintro rfl
        exact String.not_le.2 hlt hle
      · rename_i hge
        refine List.pairwise_cons.2 ⟨?_, ih hqs⟩
        intro z hz
        rcases mem_insertPath.1 hz with rfl | hz
        · exact ⟨Ne.symm hne, String.not_lt.1 hge⟩
        · exact hq z hz

theorem mem_sortPaths {p : Path} {ps : List Path} : p ∈ sortPaths ps ↔ p ∈ ps := by
  induction ps with
  | nil => simp [sortPaths]
  | cons q qs ih => simp only [sortPaths, mem_insertPath, ih, List.mem_cons]

theorem sortPaths_ordered (ps : List Path) : Ordered (sortPaths ps) := by
  induction ps with
  | nil => exact List.Pairwise.nil
  | cons p ps ih => exact insertPath_ordered ih

theorem Ordered.nodup {ps : List Path} (h : Ordered ps) : ps.Nodup := h.imp fun hpq => hpq.1

/-! ## Files of a tree -/

/-- The file at a path. -/
def FileTree.file? (t : FileTree) (p : Path) : Option File := t.files.find? fun f => f.path = p

theorem FileTree.path_of_file? {t : FileTree} {p : Path} {f : File} (h : t.file? p = some f) : f.path = p := by
  simpa using List.find?_some h

theorem FileTree.file?_write (t : FileTree) (p q : Path) (bytes : ByteArray) :
    (t.write p bytes).file? q = if q = p then (t.file? q).map fun _ => ⟨p, bytes⟩ else t.file? q := by
  have hpath : ∀ f : File, (if f.path = p then File.mk p bytes else f).path = f.path := by
    intro f
    split
    · rename_i h
      exact h.symm
    · rfl
  have hfind : (t.write p bytes).file? q = (t.file? q).map fun f => if f.path = p then ⟨p, bytes⟩ else f := by
    simp only [FileTree.file?, FileTree.write, List.find?_map, Function.comp_def, hpath]
  rw [hfind]
  cases hf : t.file? q with
  | none => simp
  | some f =>
    rw [← FileTree.path_of_file? hf]
    by_cases h : f.path = p <;> simp [h]

theorem FileTree.isFile_iff {t : FileTree} {p : Path} : t.isFile p = true ↔ ∃ f, t.file? p = some f := by
  rw [FileTree.isFile, FileTree.file?, ← Option.isSome_iff_exists, List.find?_isSome]
  simp

theorem FileTree.isFile_of_collect {t : FileTree} {p q : Path} (h : q ∈ t.collect p) : t.isFile q = true := by
  unfold FileTree.collect at h
  split at h
  · rename_i hp
    split at h
    · rwa [List.mem_singleton.1 h]
    · cases h
  · split at h
    · simp only [FileTree.filesBelow, List.mem_map, List.mem_filter] at h
      obtain ⟨f, ⟨hf, -⟩, rfl⟩ := h
      exact List.any_eq_true.2 ⟨f, hf, by simp⟩
    · cases h

theorem isFile_of_collectFiles {dir : Path} {paths : List String} {t : FileTree} {files : List Path}
    (h : collectFiles dir paths t = .ok files) : ∀ p ∈ files, t.isFile p = true := by
  have hfiles : files = paths.flatMap fun p => t.collect (Path.resolve dir p) := by
    unfold collectFiles at h
    split at h
    · cases h
    · split at h
      · cases h
      · split at h
        · cases h
        · exact (Except.ok.inj h).symm
  intro p hp
  rw [hfiles] at hp
  obtain ⟨q, -, hq⟩ := List.mem_flatMap.1 hp
  exact FileTree.isFile_of_collect hq

/-! ## Turns -/

/-- The turn of a file in a run. -/
structure Turn where
  file : File
  /-- The session that comes to the file. -/
  before : Session

namespace Turn
variable (x : Turn)

def run : FileRun := x.before.transformFile x.file.bytes

/-- What the file holds afterwards. -/
def contents : ByteArray := x.run.bytes.getD x.file.bytes

/-- The turn of the same file in a run of its own. -/
def alone : Turn := { x with before := .fresh }

/-- The text of the file, unless it is not read. -/
def text? : Option String :=
  if isGenerated x.file.bytes then none else (Text.decodeSource x.file.bytes).toOption.map Prod.snd

/-- The state in which the pass begins. -/
def state : State := (x.before.begin false).state

/-- The module after its classes were visited, if they could be. -/
def visited : Option Module := x.text?.bind fun text => ((x.before.begin false).transform text).visited

/-- The classes of the file cannot be visited. -/
def Stops : Prop :=
  ∃ text e, x.text? = some text ∧ ((x.before.begin false).transform text).result = .error (.argOrder e)

/-- What the files before have left decides nothing in the file. -/
def Agrees : Prop := ∀ text, x.text? = some text → x.state.AgreeOn text .fresh

/-- The tree after the turn. -/
def write (t : FileTree) : FileTree :=
  match x.run.bytes with
  | some bytes => t.write x.file.path bytes
  | none => t

end Turn

/-- The turns of files in the session `s`. -/
def turns (t : FileTree) (s : Session) : List Path → List Turn
  | [] => []
  | p :: ps =>
    match t.file? p with
    | none => turns t s ps
    | some f => ⟨f, s⟩ :: turns t (Turn.mk f s).run.session ps

variable {t : FileTree} {s : Session} {ps : List Path}

theorem file?_of_turns {x : Turn} (h : x ∈ turns t s ps) : t.file? x.file.path = some x.file := by
  induction ps generalizing s with
  | nil => cases h
  | cons p ps ih =>
    rw [turns] at h
    cases hf : t.file? p with
    | none =>
      rw [hf] at h
      exact ih h
    | some f =>
      rw [hf] at h
      rcases List.mem_cons.1 h with rfl | h
      · rw [FileTree.path_of_file? hf, hf]
      · exact ih h

theorem turns_paths (h : ∀ p ∈ ps, t.isFile p = true) : (turns t s ps).map (fun x => x.file.path) = ps := by
  induction ps generalizing s with
  | nil => rfl
  | cons p ps ih =>
    obtain ⟨f, hf⟩ := FileTree.isFile_iff.1 (h p List.mem_cons_self)
    rw [turns, hf, List.map_cons, ih fun q hq => h q (List.mem_cons_of_mem _ hq), FileTree.path_of_file? hf]

/-! ## A run is the sum of its turns -/

theorem file?_turn_write (x : Turn) (t : FileTree) (p : Path) :
    (x.write t).file? p = if p = x.file.path then (t.file? p).map fun f => ⟨p, x.run.bytes.getD f.bytes⟩ else t.file? p := by
  unfold Turn.write
  cases hb : x.run.bytes with
  | some bytes =>
    simp only [FileTree.file?_write, Option.getD_some]
    by_cases hp : p = x.file.path <;> simp [hp]
  | none =>
    by_cases hp : p = x.file.path
    · cases hf : t.file? p with
      | none => simp
      | some f =>
        obtain rfl := FileTree.path_of_file? hf
        rw [if_pos hp]
        rfl
    · simp [hp]

/-- One more file is one more turn. -/
theorem Progress.next_eq (x : Progress) {p : Path} {f : File} (h : x.tree.file? p = some f) :
    x.next p = ⟨(Turn.mk f x.session).run.session, x.printed ++ (Turn.mk f x.session).run.printed,
      x.successes + (Turn.mk f x.session).run.bytes.toList.length, (Turn.mk f x.session).write x.tree⟩ := by
  have h' : (x.tree.files.find? fun f => f.path = p) = some f := h
  simp only [Progress.next, h']
  have hp := FileTree.path_of_file? h
  subst hp
  cases hb : (x.session.transformFile f.bytes).bytes <;> simp [Turn.write, Turn.run, hb]

theorem Progress.next_of_none (x : Progress) {p : Path} (h : x.tree.file? p = none) : x.next p = x := by
  have h' : (x.tree.files.find? fun f => f.path = p) = none := h
  simp only [Progress.next, h']

/-- The number of turns in which a file was transformed. -/
def successes (xs : List Turn) : Nat := (xs.filterMap fun x => x.run.bytes).length

theorem successes_cons (x : Turn) (xs : List Turn) : successes (x :: xs) = x.run.bytes.toList.length + successes xs := by
  unfold successes
  cases hb : x.run.bytes with
  | none => simp [hb]
  | some bytes =>
    simp only [List.filterMap_cons, hb, List.length_cons, Option.toList_some, List.length_nil]
    omega

/-- A run through distinct files that nothing before has written to. -/
theorem foldl_next (hn : ps.Nodup) (x : Progress) (h : ∀ p ∈ ps, x.tree.file? p = t.file? p) :
    let xs := turns t x.session ps
    let y := ps.foldl Progress.next x
    y.printed = x.printed ++ joinAll (xs.map fun z => z.run.printed) ∧ y.successes = x.successes + successes xs ∧
      y.tree = xs.foldl (fun tree z => z.write tree) x.tree := by
  induction ps generalizing x with
  | nil => simp [turns, joinAll, successes]
  | cons p ps ih =>
    obtain ⟨hp, hps⟩ := List.nodup_cons.1 hn
    have hhead := h p List.mem_cons_self
    have htail : ∀ q ∈ ps, x.tree.file? q = t.file? q := fun q hq => h q (List.mem_cons_of_mem _ hq)
    cases hf : t.file? p with
    | none =>
      simp only [List.foldl_cons, turns, hf, x.next_of_none (hhead.trans hf)]
      exact ih hps x htail
    | some f =>
      have hnext := x.next_eq (hhead.trans hf)
      -- the files still to come are as they were
      have hkept : ∀ q ∈ ps, (x.next p).tree.file? q = t.file? q := by
        intro q hq
        have hne : q ≠ f.path := by
          rw [FileTree.path_of_file? hf]
          exact fun he => hp (he ▸ hq)
        rw [hnext, file?_turn_write, if_neg hne]
        exact htail q hq
      obtain ⟨hprinted, hcount, htree⟩ := ih hps (x.next p) hkept
      simp only [List.foldl_cons, turns, hf]
      rw [hprinted, hcount, htree, hnext]
      simp [joinAll, successes_cons, String.append_assoc, Nat.add_assoc]

/-- What the files of a run hold after it. -/
theorem file?_of_writes {xs : List Turn} (hn : (xs.map fun x => x.file.path).Nodup) (t : FileTree) :
    (∀ x ∈ xs, ∀ f, t.file? x.file.path = some f →
      (xs.foldl (fun tree z => z.write tree) t).file? x.file.path = some ⟨x.file.path, x.run.bytes.getD f.bytes⟩) ∧
    ∀ p, p ∉ xs.map (fun x => x.file.path) → (xs.foldl (fun tree z => z.write tree) t).file? p = t.file? p := by
  induction xs generalizing t with
  | nil => simp
  | cons y ys ih =>
    obtain ⟨hy, hys⟩ := List.nodup_cons.1 hn
    obtain ⟨ihin, ihout⟩ := ih hys (y.write t)
    simp only [List.foldl_cons, List.map_cons, List.mem_cons, not_or]
    refine ⟨?_, ?_⟩
    · rintro x (rfl | hx) f hf
      · rw [ihout _ hy, file?_turn_write, if_pos rfl, hf, Option.map_some]
      · have hne : x.file.path ≠ y.file.path := fun he => hy (List.mem_map.2 ⟨x, hx, he⟩)
        exact ihin x hx f (by rw [file?_turn_write, if_neg hne, hf])
    · rintro p ⟨hp, hps⟩
      rw [ihout p hps, file?_turn_write, if_neg hp]

/-- What a run over files comes to. -/
structure RunOf (t : FileTree) (files : List Path) (xs : List Turn) (report : Report) : Prop where
  order : xs.map (fun x => x.file.path) = sortPaths files
  printed : report.printed = joinAll (xs.map fun x => x.run.printed)
  exitCode : report.exitCode = if successes xs = files.length then 0 else 1
  written : ∀ x ∈ xs, report.tree.file? x.file.path = some ⟨x.file.path, x.contents⟩
  others : ∀ p, p ∉ files → report.tree.file? p = t.file? p

theorem upgradeFiles_eq {dir : Path} {paths : List String} {files : List Path} (h : collectFiles dir paths t = .ok files) :
    RunOf t files (turns t .fresh (sortPaths files)) (upgradeFiles dir paths t) := by
  have hnodup := (sortPaths_ordered files).nodup
  have horder : (turns t .fresh (sortPaths files)).map (fun x => x.file.path) = sortPaths files :=
    turns_paths fun p hp => isFile_of_collectFiles h p (mem_sortPaths.1 hp)
  obtain ⟨hprinted, hcount, htree⟩ := foldl_next hnodup (Progress.start t) fun _ _ => rfl
  rw [← horder] at hnodup
  obtain ⟨hin, hout⟩ := file?_of_writes hnodup t
  simp only [upgradeFiles, h]
  refine ⟨horder, ?_, ?_, ?_, ?_⟩
  · rw [hprinted]
    exact String.empty_append
  · rw [hcount]
    simp [Progress.start]
  · intro x hx
    rw [htree]
    exact hin x hx x.file (file?_of_turns hx)
  · intro p hp
    rw [htree]
    refine hout p ?_
    rw [horder]
    exact fun hm => hp (mem_sortPaths.1 hm)

/-! ## One turn -/

/-- A file that is read is transformed as its text. -/
theorem File.run_of_text {f : File} {s₀ : Session} {text : String} (h : (Turn.mk f s₀).text? = some text) :
    ∃ encoding : Text.Encoding, ∀ s : Session, (Turn.mk f s).run =
      ⟨((s.begin false).transform text).session, ((s.begin false).transform text).printed,
        ((s.begin false).transform text).result.toOption.bind fun m => encoding.encode? m.print⟩ := by
  simp only [Turn.text?] at h
  by_cases hg : isGenerated f.bytes = true
  · simp [hg] at h
  · cases hd : Text.decodeSource f.bytes with
    | error e => simp [hg, hd, Except.toOption] at h
    | ok d =>
      obtain ⟨encoding, text'⟩ := d
      obtain rfl : text' = text := by simpa [hg, hd, Except.toOption] using h
      -- neither the check of the beginning nor the encoding hangs on the session
      refine ⟨encoding, fun s => ?_⟩
      simp only [Turn.run, Session.transformFile, hg, hd]
      rfl

theorem File.run_of_no_text {f : File} {s₀ : Session} (h : (Turn.mk f s₀).text? = none) (s : Session) :
    (Turn.mk f s).run = ⟨s, "", none⟩ := by
  simp only [Turn.text?] at h
  simp only [Turn.run, Session.transformFile]
  by_cases hg : isGenerated f.bytes = true
  · simp [hg]
  · cases hd : Text.decodeSource f.bytes with
    | error e => simp [hg]
    | ok d => simp [hg, hd, Except.toOption] at h

namespace Turn
variable {x : Turn}

/-- A turn whose state agrees with a fresh one comes to what it comes to alone. -/
theorem run_eq_alone (hc : x.before.state.Closed) (ha : x.Agrees) :
    x.run.bytes = x.alone.run.bytes ∧ x.run.printed = x.alone.run.printed := by
  cases htext : x.text? with
  | none =>
    have hrun := File.run_of_no_text htext
    rw [alone, show x.run = _ from hrun x.before, hrun .fresh]
    exact ⟨rfl, rfl⟩
  | some text =>
    obtain ⟨encoding, hrun⟩ := File.run_of_text htext
    have hclosed : (x.before.begin false).state.Closed := ⟨hc.inClass, hc.inAnnotated⟩
    have hfresh : (Session.fresh.begin false).state.Closed := ⟨rfl, rfl⟩
    obtain ⟨-, hresult, hprinted⟩ := Session.transform_alike hclosed hfresh rfl rfl (ha text htext)
    rw [alone, show x.run = _ from hrun x.before, hrun .fresh, hresult, hprinted]
    exact ⟨rfl, rfl⟩

/-- Where a file is visited both ways, its state agrees with a fresh one just if it is visited alike. -/
theorem agrees_iff {v w : Module} (hc : x.before.state.Closed) (hv : x.visited = some v) (hw : x.alone.visited = some w) :
    x.Agrees ↔ v = w := by
  obtain ⟨text, htext, hv⟩ := Option.bind_eq_some_iff.1 hv
  have hw : ((Session.fresh.begin false).transform text).visited = some w := by
    obtain ⟨text', htext', hw⟩ := Option.bind_eq_some_iff.1 hw
    obtain rfl := Option.some.inj (htext.symm.trans htext')
    exact hw
  have hclosed : (x.before.begin false).state.Closed := ⟨hc.inClass, hc.inAnnotated⟩
  have hfresh : (Session.fresh.begin false).state.Closed := ⟨rfl, rfl⟩
  constructor
  · intro ha
    have hvisited := (Session.transform_alike hclosed hfresh rfl rfl (ha text htext)).1
    rw [hv, hw] at hvisited
    exact Option.some.inj hvisited
  · rintro rfl text' htext'
    obtain rfl := Option.some.inj (htext.symm.trans htext')
    exact Session.agreeOn_of_visited hclosed hfresh hv hw

/-- A file without annotated assignments before its first class is not concerned by what others leave. -/
theorem agrees_of_plain {m : Module} {text : String} (hc : x.before.state.inClass = false) (ht : x.text? = some text)
    (hm : Module.parse? text = some m) (hp : ∀ i ∈ m.exposed, i.stmt.isAnnAssign = false) : x.Agrees := by
  intro text' ht' m' table hm' _ i hi
  obtain rfl := Option.some.inj (ht.symm.trans ht')
  obtain rfl := Option.some.inj (hm.symm.trans hm')
  have hstate : x.state.inClass = false := hc
  rw [Item.fate_of_plain hstate (hp i hi), Item.fate_of_plain rfl (hp i hi)]

/-- What one turn leaves. -/
theorem session_closed (x : Turn) (h : x.before.state.inAnnotated = false) :
    x.run.session.state.inAnnotated = false ∧ (¬x.Stops → x.run.session.state.inClass = x.before.state.inClass) := by
  cases htext : x.text? with
  | none =>
    rw [show x.run = _ from File.run_of_no_text htext x.before]
    exact ⟨h, fun _ => rfl⟩
  | some text =>
    obtain ⟨encoding, hrun⟩ := File.run_of_text htext
    obtain ⟨hann, hclass⟩ := Session.transform_closed (s := x.before.begin false) text h
    rw [show x.run = _ from hrun x.before]
    exact ⟨hann, fun hs => hclass fun e he => hs ⟨text, e, htext, he⟩⟩

end Turn

/-- What the turns before leave: only one that stops may leave the session inside of a class. -/
theorem turns_closed {before after : List Turn} {x : Turn} (hs : s.state.inAnnotated = false)
    (h : turns t s ps = before ++ x :: after) : x.before.state.inAnnotated = false ∧
      ((∀ y ∈ before, ¬y.Stops) → x.before.state.inClass = s.state.inClass) := by
  induction ps generalizing s before with
  | nil => simp [turns] at h
  | cons p ps ih =>
    rw [turns] at h
    cases hf : t.file? p with
    | none =>
      rw [hf] at h
      exact ih hs h
    | some f =>
      rw [hf] at h
      cases before with
      | nil =>
        obtain ⟨rfl, -⟩ := List.cons.inj h
        exact ⟨hs, fun _ => rfl⟩
      | cons y before =>
        obtain ⟨rfl, hrest⟩ := List.cons.inj h
        obtain ⟨hann, hclass⟩ := Turn.session_closed ⟨f, s⟩ hs
        obtain ⟨hx, hxc⟩ := ih hann hrest
        refine ⟨hx, fun hstops => ?_⟩
        obtain ⟨hy, hstops⟩ := List.forall_mem_cons.1 hstops
        exact (hxc hstops).trans (hclass hy)

/-! ## Main theorem -/

/-- A run over files is the sum of its turns. A session that does not come to a file inside of a class, as only one that was
stopped can, and whose state agrees with a fresh one, leaves the file with the same contents, the same warnings and the
same success as a run on the file alone. Its state does agree just if the file, where it can be visited in both runs, is
visited alike. -/
theorem file_alike_alone {dir : Path} {paths : List String} {t : FileTree} {files : List Path}
    (h : collectFiles dir paths t = .ok files) :
    let xs := turns t .fresh (sortPaths files)
    let report := upgradeFiles dir paths t
    RunOf t files xs report ∧
      ∀ before x after, xs = before ++ x :: after →
        ((∀ y ∈ before, ¬y.Stops) → x.before.state.inClass = false) ∧
        (x.before.state.inClass = false → x.Agrees → ∀ path, collectFiles dir [path] t = .ok [x.file.path] →
          let alone := upgradeFiles dir [path] t
          alone.tree.file? x.file.path = report.tree.file? x.file.path ∧ alone.printed = x.run.printed ∧
            (alone.exitCode = 0 ↔ x.run.bytes.isSome)) ∧
        (x.before.state.inClass = false → ∀ v w, x.visited = some v → x.alone.visited = some w → (x.Agrees ↔ v = w)) := by
  intro xs report
  have hrun := upgradeFiles_eq h
  refine ⟨hrun, ?_⟩
  intro before x after hxs
  have hx : x ∈ xs := by simp [hxs]
  obtain ⟨hann, hclass⟩ := turns_closed (s := .fresh) rfl hxs
  refine ⟨hclass, ?_, fun hc v w hv hw => Turn.agrees_iff ⟨hc, hann⟩ hv hw⟩
  intro hc ha path hpath alone
  obtain ⟨hbytes, hprinted⟩ := Turn.run_eq_alone ⟨hc, hann⟩ ha
  -- a run on the file alone has one turn, which begins in a fresh session
  have halone := upgradeFiles_eq hpath
  have hturns : turns t .fresh (sortPaths [x.file.path]) = [x.alone] := by
    simp only [sortPaths, insertPath, turns, file?_of_turns hx]
    rfl
  rw [hturns] at halone
  refine ⟨?_, ?_, ?_⟩
  · have hcontents : x.alone.contents = x.contents := by
      unfold Turn.contents
      rw [hbytes]
      rfl
    rw [hrun.written x hx, ← hcontents]
    exact halone.written x.alone List.mem_cons_self
  · rw [halone.printed, hprinted]
    simp [joinAll]
  · rw [halone.exitCode, hbytes]
    cases hb : x.alone.run.bytes <;> simp [successes, hb]

def untypedText : String := "import attr\nclass A:\n x = attr.ib()\n"
def declaringText : String := "import attr\nx: int = attr.ib(default=1)\n"
def typedText : String := "import attr\n@attr.s\nclass C:\n y: int = attr.ib()\n"

/-- Files with a class without types, with a field in no class, and with a class with types. -/
def threeFiles : FileTree :=
  ⟨[⟨["a.py"], untypedText.toUTF8⟩, ⟨["b.py"], declaringText.toUTF8⟩, ⟨["c.py"], typedText.toUTF8⟩], []⟩

/-- The class with types is upgraded after the one without as it is alone. -/
theorem typed_file_alike_alone :
    let report := upgradeFiles [] ["a.py", "c.py"] threeFiles
    let alone := upgradeFiles [] ["c.py"] threeFiles
    collectFiles [] ["a.py", "c.py"] threeFiles = .ok [["a.py"], ["c.py"]] ∧
      alone.tree.file? ["c.py"] = report.tree.file? ["c.py"] ∧ alone.exitCode = 0 := by
  intro report alone
  have hfiles : collectFiles [] ["a.py", "c.py"] threeFiles = .ok [["a.py"], ["c.py"]] := by decide +kernel
  let a : Turn := ⟨⟨["a.py"], untypedText.toUTF8⟩, .fresh⟩
  let c : Turn := ⟨⟨["c.py"], typedText.toUTF8⟩, a.run.session⟩
  have hturns : turns threeFiles .fresh (sortPaths [["a.py"], ["c.py"]]) = [a] ++ c :: [] := by
    have hsort : sortPaths [["a.py"], ["c.py"]] = [["a.py"], ["c.py"]] := by decide +kernel
    rw [hsort]
    rfl
  have hgo : ∀ y ∈ [a], ¬y.Stops := by
    have htext : a.text? = some untypedText := by decide +kernel
    have hok : ((Session.fresh.begin false).transform untypedText).result.toOption.isSome = true := by decide +kernel
    rintro y hy ⟨text, e, hy', he⟩
    obtain rfl := List.mem_singleton.1 hy
    obtain rfl := Option.some.inj (htext.symm.trans hy')
    have he : ((Session.fresh.begin false).transform untypedText).result = .error (.argOrder e) := he
    rw [he] at hok
    cases hok
  obtain ⟨-, hall⟩ := file_alike_alone hfiles
  obtain ⟨hclass, halone, -⟩ := hall [a] c [] hturns
  have hagrees : c.Agrees := by
    have htext : c.text? = some typedText := by decide +kernel
    have hplain : (Module.parse? typedText).map (fun m => m.exposed.all fun i => !i.stmt.isAnnAssign) = some true := by
      decide +kernel
    obtain ⟨m, hm, hp⟩ := Option.map_eq_some_iff.1 hplain
    refine Turn.agrees_of_plain (hclass hgo) htext hm ?_
    simpa using hp
  obtain ⟨hcontents, -, hexit⟩ := halone (hclass hgo) hagrees "c.py" (by decide +kernel)
  exact ⟨hfiles, hcontents, hexit.2 (by decide +kernel)⟩

/-- The flag that the class without types leaves keeps the field of the next file from being upgraded. -/
theorem untyped_file_reaches_next :
    let report := upgradeFiles [] ["a.py", "b.py"] threeFiles
    let alone := upgradeFiles [] ["b.py"] threeFiles
    (report.tree.file? ["b.py"]).map (fun f => f.bytes.toList) =
        some "import attr\n\nx: int = attr.ib(default=1)\n".toUTF8.toList ∧
      (alone.tree.file? ["b.py"]).map (fun f => f.bytes.toList) = some "\nx: int = 1\n".toUTF8.toList := by
  decide +kernel

end AttrsUpgrade
