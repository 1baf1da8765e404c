import ResourceGraph.Cli

/-!
The program: it reads the files below the folder that it runs in, runs, and writes what has changed.
-/

namespace ResourceGraph

/-- The workspace with all that some folder holds, at a place. -/
partial def addEntries (w : Workspace) (place : Place) (entries : Array IO.FS.DirEntry) :
    IO Workspace := do
  let mut all := w
  for entry in entries do
    let next := place ++ [entry.fileName]
    if ← entry.path.isDir then
      all ← addEntries (all.put next .folder) next (← entry.path.readDir)
    else
      all := all.put next (.file (← IO.FS.readBinFile entry.path).toList)
  return all

/-- Writes the entries of a workspace that another one does not have. -/
def writeChanges (old new : Workspace) : IO Unit := do
  for (place, entry) in new.entries do
    let path := "/".intercalate place
    match entry, old.entry? place with
    | .folder, none => IO.FS.createDirAll path
    | .folder, some _ => pure ()
    | .file bytes, some (.file before) =>
      if bytes ≠ before then IO.FS.writeBinFile path ⟨bytes.toArray⟩
    | .file bytes, _ => IO.FS.writeBinFile path ⟨bytes.toArray⟩

end ResourceGraph

open ResourceGraph in
/-- Runs the program on the folder that it is started in. -/
def main (args : List String) : IO UInt32 := do
  let folder ← IO.currentDir
  let before ← addEntries .empty [] (← folder.readDir)
  let outcome := Cli.run (← IO.getEnv "INFRAGRAPH_QUIET") before args
  writeChanges before outcome.workspace
  IO.print outcome.output
  IO.eprint outcome.complaints
  return UInt32.ofNat outcome.code
