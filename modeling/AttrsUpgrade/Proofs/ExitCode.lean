import AttrsUpgrade.Proofs.Files
import Mathlib.Data.List.Nodup
import Mathlib.Data.List.Perm.Subperm
/-!
# Files and the exit code

What a call of the tool does to a file tree. A call without paths, with a path that is not there or without files to take
changes nothing and exits with 1. Any other call writes to the files that its paths stand for and to no others, to each what
its transformation gave and nothing if it gave none. The exit code is 0 just if every file was transformed and no two paths
stand for the same one (`exit_zero_iff_all_written_and_named_once`): files are counted as often as they are named and
transformed once.
-/

namespace AttrsUpgrade

/-! ## The files that paths stand for -/

/-- A path stands for itself if it is a file, and otherwise for the files below it; their names end in `.py`. -/
def FileTree.StandsFor (t : FileTree) (q p : Path) : Prop :=
  if t.isFile q = true then p = q ∧ p.hasPyExtension = true
  else t.isFile p = true ∧ q <+: p ∧ p.getLast?.any endsInPy = true

section
variable (dir : Path) (paths : List String) (t : FileTree)

/-- The files that the paths of a call stand for, as often as they do. -/
def namedFiles : List Path := paths.flatMap fun text => t.collect (Path.resolve dir text)

/-- A path of the call stands for the file. -/
def Collected (p : Path) : Prop := ∃ text ∈ paths, t.StandsFor (Path.resolve dir text) p

/-- Why a call does nothing. -/
inductive Misused : UsageError → Prop
  | noPaths : paths = [] → Misused .noPaths
  | missing {before after : List String} {text : String} : paths = before ++ text :: after →
      (∀ x ∈ before, t.has (Path.resolve dir x) = true) → t.has (Path.resolve dir text) = false → Misused (.missing text)
  | noFiles : paths ≠ [] → (∀ x ∈ paths, t.has (Path.resolve dir x) = true) → (∀ p, ¬Collected dir paths t p) →
      Misused .noFiles

/-- No two paths of the call stand for the same file. -/
def NamedOnce : Prop :=
  paths.Pairwise fun a b => ∀ p, ¬(t.StandsFor (Path.resolve dir a) p ∧ t.StandsFor (Path.resolve dir b) p)

end

variable {dir : Path} {paths : List String} {t : FileTree}

theorem FileTree.mem_filesBelow {q p : Path} : p ∈ t.filesBelow q ↔
    t.isFile p = true ∧ q <+: p ∧ p ≠ q ∧ p.getLast?.any endsInPy = true := by
  simp only [filesBelow, isFile, List.mem_map, List.mem_filter, List.any_eq_true, Bool.and_eq_true, decide_eq_true_eq,
    List.isPrefixOf_iff_prefix]
  constructor
  · rintro ⟨f, ⟨hf, ⟨hq, hne⟩, hpy⟩, rfl⟩
    exact ⟨⟨f, hf, rfl⟩, hq, by simpa using hne, hpy⟩
  · rintro ⟨⟨f, hf, rfl⟩, hq, hne, hpy⟩
    exact ⟨f, ⟨hf, ⟨hq, by simpa using hne⟩, hpy⟩, rfl⟩

theorem FileTree.isDir_of_below {q p : Path} (hp : t.isFile p = true) (hq : q <+: p) (hne : p ≠ q) : t.isDir q = true := by
  obtain ⟨f, hf, hpath⟩ := List.any_eq_true.1 hp
  obtain rfl : f.path = p := by simpa using hpath
  have hbelow : t.files.any (fun f => q.isPrefixOf f.path && f.path ≠ q) = true :=
    List.any_eq_true.2 ⟨f, hf, by simpa [List.isPrefixOf_iff_prefix] using ⟨hq, hne⟩⟩
  rw [isDir, hbelow, Bool.or_true]

theorem FileTree.mem_collect {q p : Path} : p ∈ t.collect q ↔ t.StandsFor q p := by
  unfold collect StandsFor
  by_cases hfile : t.isFile q = true
  · rw [if_pos hfile, if_pos hfile]
    by_cases hpy : q.hasPyExtension = true
    · rw [if_pos hpy, List.mem_singleton]
      exact ⟨fun h => ⟨h, h ▸ hpy⟩, And.left⟩
    · rw [if_neg hpy]
      exact ⟨fun h => absurd h List.not_mem_nil, fun h => absurd (h.1 ▸ h.2) hpy⟩
  · -- a file below it is another one
    have hne : t.isFile p = true → p ≠ q := fun hp he => hfile (he ▸ hp)
    rw [if_neg hfile, if_neg hfile]
    by_cases hdir : t.isDir q = true
    · rw [if_pos hdir, mem_filesBelow]
      exact ⟨fun ⟨hp, hq, _, hpy⟩ => ⟨hp, hq, hpy⟩, fun ⟨hp, hq, hpy⟩ => ⟨hp, hq, hne hp, hpy⟩⟩
    · rw [if_neg hdir]
      exact ⟨fun h => absurd h List.not_mem_nil, fun ⟨hp, hq, _⟩ => absurd (isDir_of_below hp hq (hne hp)) hdir⟩

theorem mem_namedFiles {p : Path} : p ∈ namedFiles dir paths t ↔ Collected dir paths t p := by
  simp only [namedFiles, Collected, List.mem_flatMap, FileTree.mem_collect]

theorem namedFiles_eq_nil_iff : namedFiles dir paths t = [] ↔ ∀ p, ¬Collected dir paths t p := by
  simp only [List.eq_nil_iff_forall_not_mem, mem_namedFiles]

theorem FileTree.collect_nodup (ht : (t.files.map File.path).Nodup) (q : Path) : (t.collect q).Nodup := by
  unfold collect filesBelow
  split
  · split
    · exact List.nodup_singleton _
    · exact List.nodup_nil
  · split
    · exact ht.sublist (List.filter_sublist.map _)
    · exact List.nodup_nil

/-- In a tree with distinct files, paths name each file once if no two stand for the same. -/
theorem namedFiles_nodup_iff (ht : (t.files.map File.path).Nodup) : (namedFiles dir paths t).Nodup ↔ NamedOnce dir paths t := by
  rw [namedFiles, List.nodup_flatMap, and_iff_right fun _ _ => FileTree.collect_nodup ht _]
  refine List.Pairwise.iff fun a b => ?_
  simp only [Function.onFun, List.Disjoint, FileTree.mem_collect, not_and]

/-! ## What is refused -/

theorem collectFiles_of_present (hpaths : paths ≠ []) (hhas : ∀ x ∈ paths, t.has (Path.resolve dir x) = true) :
    collectFiles dir paths t = if namedFiles dir paths t = [] then .error .noFiles else .ok (namedFiles dir paths t) := by
  have hfind : (paths.find? fun x => !t.has (Path.resolve dir x)) = none := by
    simpa using hhas
  unfold collectFiles namedFiles
  rw [if_neg (by simpa using hpaths), hfind]
  cases paths.flatMap fun text => t.collect (Path.resolve dir text) with
  | nil => rfl
  | cons p ps => rfl

theorem Misused.collectFiles {e : UsageError} (h : Misused dir paths t e) : collectFiles dir paths t = .error e := by
  cases h with
  | noPaths h =>
    subst h
    rfl
  | @missing before after text hpaths hbefore hmissing =>
    have hfind : (paths.find? fun x => !t.has (Path.resolve dir x)) = some text := by
      rw [List.find?_eq_some_iff_append]
      exact ⟨by simpa using hmissing, before, after, hpaths, by simpa using hbefore⟩
    unfold AttrsUpgrade.collectFiles
    rw [if_neg (by simp [hpaths]), hfind]
  | noFiles hpaths hhas hnone => rw [collectFiles_of_present hpaths hhas, if_pos (namedFiles_eq_nil_iff.2 hnone)]

/-- A call that is not refused takes all files named. -/
theorem collectFiles_of_used (h : ∀ e, ¬Misused dir paths t e) : collectFiles dir paths t = .ok (namedFiles dir paths t) := by
  have hpaths : paths ≠ [] := fun he => h _ (.noPaths he)
  have hhas : ∀ x ∈ paths, t.has (Path.resolve dir x) = true := by
    cases hfind : paths.find? fun x => !t.has (Path.resolve dir x) with
    | none => simpa using hfind
    | some text =>
      obtain ⟨hmissing, before, after, hsplit, hbefore⟩ := List.find?_eq_some_iff_append.1 hfind
      exact absurd (.missing hsplit (by simpa using hbefore) (by simpa using hmissing)) (h _)
  have hnamed : namedFiles dir paths t ≠ [] := fun he => h _ (.noFiles hpaths hhas (namedFiles_eq_nil_iff.1 he))
  rw [collectFiles_of_present hpaths hhas, if_neg hnamed]

/-! ## Counting -/

theorem length_sortPaths_le (ps : List Path) : (sortPaths ps).length ≤ ps.length :=
  ((sortPaths_ordered ps).nodup.subperm fun _ => mem_sortPaths.1).length_le

/-- Nothing is left out of a list of distinct paths, and of no other. -/
theorem length_sortPaths_eq_iff {ps : List Path} : (sortPaths ps).length = ps.length ↔ ps.Nodup := by
  have hnodup := (sortPaths_ordered ps).nodup
  constructor
  · intro h
    have hperm := (hnodup.subperm fun _ => mem_sortPaths.1).perm_of_length_le (Nat.le_of_eq h.symm)
    exact hperm.nodup_iff.1 hnodup
  · intro h
    exact ((List.perm_ext_iff_of_nodup hnodup h).2 fun _ => mem_sortPaths).length_eq

theorem RunOf.exit_zero_iff {files : List Path} {xs : List Turn} {report : Report} (h : RunOf t files xs report) :
    report.exitCode = 0 ↔ (∀ x ∈ xs, x.run.bytes.isSome = true) ∧ files.Nodup := by
  have hlength : xs.length = (sortPaths files).length := by
    rw [← h.order, List.length_map]
  -- there are at most as many successes as turns, and at most as many turns as paths were collected
  have hle := length_sortPaths_le files
  have hcount : successes xs ≤ xs.length := List.length_filterMap_le _ _
  have hall : successes xs = xs.length ↔ ∀ x ∈ xs, x.run.bytes.isSome = true := List.filterMap_length_eq_length
  rw [h.exitCode, ← hall, ← length_sortPaths_eq_iff]
  split <;> omega

/-! ## What is written -/

/-- The turn of a file gives new contents. -/
structure Turn.Writes (x : Turn) (bytes : ByteArray) : Prop where
  notGenerated : isGenerated x.file.bytes = false
  output : ∃ encoding text m, Text.decodeSource x.file.bytes = .ok (encoding, text) ∧
    ((x.before.begin false).transform text).result = .ok m ∧ encoding.encode? m.print = some bytes

theorem Turn.run_bytes_iff {x : Turn} {bytes : ByteArray} : x.run.bytes = some bytes ↔ x.Writes bytes := by
  have hwrites : x.Writes bytes ↔ isGenerated x.file.bytes = false ∧ ∃ encoding text m,
      Text.decodeSource x.file.bytes = .ok (encoding, text) ∧
      ((x.before.begin false).transform text).result = .ok m ∧ encoding.encode? m.print = some bytes :=
    ⟨fun h => ⟨h.1, h.2⟩, fun h => ⟨h.1, h.2⟩⟩
  rw [hwrites, run, Session.transformFile]
  cases hg : isGenerated x.file.bytes with
  | true => simp
  | false =>
    cases hd : Text.decodeSource x.file.bytes with
    | error e => simp
    | ok d =>
      obtain ⟨encoding, text⟩ := d
      cases hr : ((x.before.begin false).transform text).result with
      | error e => simp [hr, Except.toOption]
      | ok m => simp [hr, Except.toOption]

theorem FileTree.write_paths (t : FileTree) (p : Path) (bytes : ByteArray) :
    (t.write p bytes).files.map File.path = t.files.map File.path := by
  simp only [write, List.map_map]
  refine List.map_congr_left fun f _ => ?_
  by_cases hf : f.path = p
  · simp [hf]
  · simp [hf]

/-- A run makes and removes no files. -/
theorem foldl_next_paths (ps : List Path) (x : Progress) :
    (ps.foldl Progress.next x).tree.files.map File.path = x.tree.files.map File.path ∧
      (ps.foldl Progress.next x).tree.dirs = x.tree.dirs := by
  induction ps generalizing x with
  | nil => exact ⟨rfl, rfl⟩
  | cons p ps ih =>
    have hnext : (x.next p).tree.files.map File.path = x.tree.files.map File.path ∧ (x.next p).tree.dirs = x.tree.dirs := by
      cases hf : x.tree.file? p with
      | none =>
        rw [x.next_of_none hf]
        exact ⟨rfl, rfl⟩
      | some f =>
        rw [x.next_eq hf, Turn.write]
        cases (Turn.mk f x.session).run.bytes with
        | none => exact ⟨rfl, rfl⟩
        | some bytes => exact ⟨FileTree.write_paths _ _ _, rfl⟩
    obtain ⟨hpaths, hdirs⟩ := ih (x.next p)
    exact ⟨hpaths.trans hnext.1, hdirs.trans hnext.2⟩

/-! ## Main theorem -/

/-- What a call that is not refused comes to, with the turns of its files. -/
structure Handled (dir : Path) (paths : List String) (t : FileTree) (xs : List Turn) (report : Report) : Prop where
  /-- Each file that is collected has one turn. -/
  distinct : (xs.map fun x => x.file.path).Nodup
  collected : ∀ p, p ∈ xs.map (fun x => x.file.path) ↔ Collected dir paths t p
  /-- A file that is transformed holds the output. -/
  written : ∀ x ∈ xs, ∀ bytes, x.Writes bytes → report.tree.file? x.file.path = some ⟨x.file.path, bytes⟩
  /-- Any other file holds what it held. -/
  unwritten : ∀ x ∈ xs, (∀ bytes, ¬x.Writes bytes) → report.tree.file? x.file.path = t.file? x.file.path
  others : ∀ p, ¬Collected dir paths t p → report.tree.file? p = t.file? p
  sameFiles : report.tree.files.map File.path = t.files.map File.path
  sameDirs : report.tree.dirs = t.dirs
  code : report.exitCode = 0 ∨ report.exitCode = 1
  success : report.exitCode = 0 ↔ (∀ x ∈ xs, ∃ bytes, x.Writes bytes) ∧ NamedOnce dir paths t

/-- For all trees whose files have distinct paths: a call that is refused changes nothing, says why and exits with 1; any other
call writes what the transformations give to the files collected, and leaves the rest of the tree as it is. It exits with 0 just
if all of them gave something and no two paths of the call stand for the same file. -/
theorem exit_zero_iff_all_written_and_named_once (dir : Path) (paths : List String) {t : FileTree}
    (ht : (t.files.map File.path).Nodup) :
    (∀ e, Misused dir paths t e → upgradeFiles dir paths t = ⟨1, e.message, t⟩) ∧
    ((∀ e, ¬Misused dir paths t e) →
      Handled dir paths t (turns t .fresh (sortPaths (namedFiles dir paths t))) (upgradeFiles dir paths t)) := by
  constructor
  · intro e he
    rw [upgradeFiles, he.collectFiles]
  · intro hused
    have hcollect := collectFiles_of_used hused
    have hrun := upgradeFiles_eq hcollect
    have hsame := foldl_next_paths (sortPaths (namedFiles dir paths t)) (.start t)
    have htree : (upgradeFiles dir paths t).tree =
        ((sortPaths (namedFiles dir paths t)).foldl Progress.next (.start t)).tree := by
      simp only [upgradeFiles, hcollect]
    rw [← htree] at hsame
    refine ⟨?_, ?_, ?_, ?_, ?_, hsame.1, hsame.2, ?_, ?_⟩
    · rw [hrun.order]
      exact (sortPaths_ordered _).nodup
    · intro p
      rw [hrun.order, mem_sortPaths, mem_namedFiles]
    · intro x hx bytes hwrites
      rw [hrun.written x hx, Turn.contents, Turn.run_bytes_iff.2 hwrites, Option.getD_some]
    · intro x hx hnone
      have hbytes : x.run.bytes = none := Option.eq_none_iff_forall_ne_some.2 fun b hb => hnone b (Turn.run_bytes_iff.1 hb)
      rw [hrun.written x hx, Turn.contents, hbytes, Option.getD_none, file?_of_turns hx]
    · intro p hp
      exact hrun.others p fun hm => hp (mem_namedFiles.1 hm)
    · rw [hrun.exitCode]
      split
      · exact .inl rfl
      · exact .inr rfl
    · simp only [hrun.exit_zero_iff, namedFiles_nodup_iff ht, Option.isSome_iff_exists, Turn.run_bytes_iff]

/-- A directory with a text beside a module, and a module outside of it. -/
def someFiles : FileTree :=
  ⟨[⟨["d", "a.py"], typedText.toUTF8⟩, ⟨["d", "notes.txt"], typedText.toUTF8⟩,
    ⟨["e.py"], declaringText.toUTF8⟩], []⟩

/-- The directory and the module name both modules once. -/
theorem directory_and_module_exit_zero :
    (someFiles.files.map File.path).Nodup ∧ collectFiles [] ["d", "e.py"] someFiles = .ok [["d", "a.py"], ["e.py"]] ∧
    (upgradeFiles [] ["d", "e.py"] someFiles).exitCode = 0 ∧ NamedOnce [] ["d", "e.py"] someFiles ∧
    Handled [] ["d", "e.py"] someFiles (turns someFiles .fresh (sortPaths (namedFiles [] ["d", "e.py"] someFiles)))
      (upgradeFiles [] ["d", "e.py"] someFiles) := by
  have hnodup : (someFiles.files.map File.path).Nodup := by decide
  have hcollect : collectFiles [] ["d", "e.py"] someFiles = .ok [["d", "a.py"], ["e.py"]] := by decide +kernel
  have hexit : (upgradeFiles [] ["d", "e.py"] someFiles).exitCode = 0 := by decide +kernel
  have hused : ∀ e, ¬Misused [] ["d", "e.py"] someFiles e := by
    intro e he
    cases hcollect.symm.trans he.collectFiles
  have hhandled := (exit_zero_iff_all_written_and_named_once [] ["d", "e.py"] hnodup).2 hused
  exact ⟨hnodup, hcollect, hexit, (hhandled.success.1 hexit).2, hhandled⟩

/-- A call that names one module twice. -/
def oneFile : FileTree := ⟨[⟨["a.py"], typedText.toUTF8⟩], []⟩

/-- The module is transformed, yet the call exits with 1. -/
theorem file_named_twice_exits_one :
    let xs := turns oneFile .fresh (sortPaths (namedFiles [] ["a.py", "a.py"] oneFile))
    let report := upgradeFiles [] ["a.py", "a.py"] oneFile
    namedFiles [] ["a.py", "a.py"] oneFile = [["a.py"], ["a.py"]] ∧ xs.map (fun x => x.file.path) = [["a.py"]] ∧
      xs.all (fun x => x.run.bytes.isSome) = true ∧ report.exitCode = 1 ∧
      (report.tree.file? ["a.py"]).map (fun f => f.bytes.toList) =
        some "from attrs import define\n\n@define\nclass C:\n y: int\n".toUTF8.toList := by
  decide +kernel

end AttrsUpgrade
