import AttrsUpgrade.Files.Path
import AttrsUpgrade.Upgrade.Transform
/-!
# The command line

`upgradeFiles` transforms the files that a list of paths stands for, in the order of their paths and in one session. A file
that cannot be read or transformed stays as it is.
-/

namespace AttrsUpgrade

/-- Why nothing is done. -/
inductive UsageError where
  | noPaths
  | missing (path : String)
  | noFiles
deriving DecidableEq, Repr

def UsageError.message : UsageError → String
  | .noPaths => "Error: No paths provided\nUsage: modernize-attrs <path(s)>\n"
  | .missing path => "Error: Path does not exist: " ++ path ++ "\n"
  | .noFiles => "No Python files found to process\n"

/-- The files that paths stand for, one that several paths stand for as often. -/
def collectFiles (dir : Path) (paths : List String) (t : FileTree) : Except UsageError (List Path) :=
  if paths.isEmpty then .error .noPaths
  else
    match paths.find? fun p => !t.has (Path.resolve dir p) with
    | some p => .error (.missing p)
    | none =>
      match paths.flatMap fun p => t.collect (Path.resolve dir p) with
      | [] => .error .noFiles
      | files => .ok files

/-- Puts a path where it belongs by its text, unless it is there already. -/
def insertPath (p : Path) : List Path → List Path
  | [] => [p]
  | q :: qs => if p = q then q :: qs else if p.text < q.text then p :: q :: qs else q :: insertPath p qs

/-- The paths of a list in order, each once. -/
def sortPaths : List Path → List Path
  | [] => []
  | p :: ps => insertPath p (sortPaths ps)

/-- What marks a file as the output of another tool. -/
def generatedMark : String := "@gen" ++ "erated"

def isGenerated (bytes : ByteArray) : Bool := Text.occurs generatedMark.toUTF8.toList bytes.toList

/-- What becomes of one file. -/
structure FileRun where
  session : Session
  printed : String
  /-- The new contents, if the file was transformed. -/
  bytes : Option ByteArray

/-- Transforms the contents of a file. -/
def Session.transformFile (s : Session) (bytes : ByteArray) : FileRun :=
  if isGenerated bytes then ⟨s, "", none⟩
  else
    match Text.decodeSource bytes with
    | .error _ => ⟨s, "", none⟩
    | .ok (encoding, text) =>
      let r := (s.begin false).transform text
      ⟨r.session, r.printed, r.result.toOption.bind fun m => encoding.encode? m.print⟩

/-- What has been done to a list of files. -/
structure Progress where
  session : Session
  printed : String
  /-- The number of files that were transformed. -/
  successes : Nat
  tree : FileTree

def Progress.start (t : FileTree) : Progress := ⟨.fresh, "", 0, t⟩

/-- Transforms one more file. -/
def Progress.next (x : Progress) (p : Path) : Progress :=
  match x.tree.files.find? fun f => f.path = p with
  | none => x
  | some f =>
    let r := x.session.transformFile f.bytes
    match r.bytes with
    | some bytes => ⟨r.session, x.printed ++ r.printed, x.successes + 1, x.tree.write p bytes⟩
    | none => ⟨r.session, x.printed ++ r.printed, x.successes, x.tree⟩

/-- What a call of the tool comes to. -/
structure Report where
  exitCode : Nat
  printed : String
  tree : FileTree

/-- Transforms all files that the paths stand for. The exit code is 0 if every one of them was transformed; a file that is
named twice is transformed once and counts as missing once. -/
def upgradeFiles (dir : Path) (paths : List String) (t : FileTree) : Report :=
  match collectFiles dir paths t with
  | .error e => ⟨1, e.message, t⟩
  | .ok files =>
    let x := (sortPaths files).foldl Progress.next (.start t)
    ⟨if x.successes = files.length then 0 else 1, x.printed, x.tree⟩

end AttrsUpgrade
