import AttrsUpgrade.Files.CommandLine
/-!
# The program

Reads what the paths on the command line stand for, upgrades it and writes back the files that changed.
-/

open AttrsUpgrade

/-- Reads a file, or a directory with all that is below it. -/
partial def readTree (path : String) (t : FileTree) : IO FileTree := do
  let place := (← IO.currentDir) / path
  if ← place.isDir then
    let mut t := { t with dirs := Path.resolve [] path :: t.dirs }
    for entry in ← place.readDir do
      t ← readTree (path ++ "/" ++ entry.fileName) t
    return t
  else if ← place.pathExists then
    let p := Path.resolve [] path
    if t.isFile p then return t
    return { t with files := ⟨p, ← IO.FS.readBinFile path⟩ :: t.files }
  else return t

def main (args : List String) : IO UInt32 := do
  let dir := Path.resolve [] (← IO.currentDir).toString
  let mut t : FileTree := ⟨[], []⟩
  for arg in args do
    t ← readTree (Path.resolve dir arg).text t
  let report := upgradeFiles dir args t
  for f in report.tree.changedSince t do
    IO.FS.writeBinFile f.path.text f.bytes
  IO.print report.printed
  return report.exitCode.toUInt32
