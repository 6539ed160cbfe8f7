import AttrsUpgrade.Text.Join
/-!
# Paths and file trees

A path is the list of names from the root down. A `FileTree` holds what a run can see of the file system.
-/

namespace AttrsUpgrade

abbrev Path := List String

namespace Path

/-- The names between slashes; `name` is the one read so far, in reverse. -/
def splitFrom (name : List Char) : List Char → List String
  | [] => [String.ofList name.reverse]
  | c :: cs => if c = '/' then String.ofList name.reverse :: splitFrom [] cs else splitFrom (c :: name) cs

/-- Goes on from a path by one name. -/
def step (p : Path) (name : String) : Path :=
  if name = "" ∨ name = "." then p else if name = ".." then p.dropLast else p ++ [name]

/-- The path that a text means in a directory. -/
def resolve (dir : Path) (text : String) : Path :=
  (splitFrom [] text.toList).foldl step (if text.toList.head? = some '/' then [] else dir)

/-- The absolute path as text. -/
def text (p : Path) : String := "/" ++ joinWith "/" p

end Path

/-! ## File names -/

/-- Whether a name ends in `.py`. -/
def endsInPy (name : String) : Bool := ".py".toList.isSuffixOf name.toList

/-- Whether a path leads to a name with the extension `.py`; a name that is nothing but `.py` has none. -/
def Path.hasPyExtension (p : Path) : Bool := p.getLast?.any fun name => endsInPy name && name ≠ ".py"

/-! ## File trees -/

structure File where
  path : Path
  bytes : ByteArray

/-- Files, and directories that may be empty. -/
structure FileTree where
  files : List File
  dirs : List Path

namespace FileTree

def isFile (t : FileTree) (p : Path) : Bool := t.files.any fun f => f.path = p

/-- A directory is there if it is listed, or if something lies below it. -/
def isDir (t : FileTree) (p : Path) : Bool :=
  p.isEmpty || t.dirs.any (fun d => p.isPrefixOf d) || t.files.any fun f => p.isPrefixOf f.path && f.path ≠ p

def has (t : FileTree) (p : Path) : Bool := t.isFile p || t.isDir p

/-- The files below a directory whose names end in `.py`. -/
def filesBelow (t : FileTree) (dir : Path) : List Path :=
  (t.files.filter fun f => dir.isPrefixOf f.path && f.path ≠ dir && f.path.getLast?.any endsInPy).map File.path

/-- The files that a path stands for. -/
def collect (t : FileTree) (p : Path) : List Path :=
  if t.isFile p then if p.hasPyExtension then [p] else []
  else if t.isDir p then t.filesBelow p
  else []

/-- Replaces the contents of a file. -/
def write (t : FileTree) (p : Path) (bytes : ByteArray) : FileTree :=
  { t with files := t.files.map fun f => if f.path = p then ⟨p, bytes⟩ else f }

/-- The files that are not the same in another tree. -/
def changedSince (t old : FileTree) : List File :=
  t.files.filter fun f => !old.files.any fun g => g.path = f.path && g.bytes.toList = f.bytes.toList

end FileTree

end AttrsUpgrade
