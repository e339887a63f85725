import OperationHooks.CommandLine.Run

/-!
# The program

The files that the arguments name are read into memory, the run is reckoned, and what it changed is
written back.
-/

open OperationHooks

/-- Files with the content of the disk at a path, at any depth. -/
partial def readInto (files : FileSystem) (path : String) : IO FileSystem := do
  let place := files.resolve path
  let onDisk ← IO.FS.realPath path
  if ← onDisk.isDir then
    let folder := { files with root := files.root.makeFolder place }
    (← onDisk.readDir).toList.foldlM (fun fs entry => readInto fs (Path.join path (nameOf entry)))
      folder
  else
    match files.put place (← IO.FS.readBinFile path) with
    | .ok files => return files
    | .error _ => return files
where
  /-- The name of an entry of a folder. -/
  nameOf (entry : IO.FS.DirEntry) : List FileName :=
    match Step.ofPart entry.fileName.toList with
    | .down name => [name]
    | _ => []

/-- Files with what the disk holds at a path. The folders that the path goes through on its way are
there as well, so that it can go up from them. -/
def readPath (files : FileSystem) (path : String) : IO FileSystem := do
  match ← (IO.FS.realPath path).toBaseIO with
  | .error _ => return files
  | .ok _ =>
    let parts := splitAtChar '/' path.toList
    let ways := (List.range parts.length).map fun n =>
      String.ofList (['/'].intercalate (parts.take n))
    let passed := ways.foldl (fun root way => root.makeFolder (files.resolve way)) files.root
    readInto { files with root := passed } path

/-- Writes a file that a run has changed. -/
def writeBack (before after : FileSystem) (place : List FileName) : IO Unit := do
  match after.root.content? place with
  | none => return
  | some content =>
    if !before.root.holds place content then
      IO.FS.createDirAll (Path.ofNames place.dropLast)
      IO.FS.writeBinFile (Path.ofNames place) content

/-- Runs the program on the files of the disk. -/
def main (arguments : List String) : IO UInt32 := do
  let here := (Path.steps (← IO.currentDir).toString).filterMap fun
    | .down name => some name
    | _ => none
  let paths := CommandLine.pathsOf arguments
  let empty : FileSystem := ⟨.makeFolder here (.folder []), here⟩
  let files ← paths.foldlM readPath empty
  let outcome := CommandLine.run files arguments
  paths.forM fun path => writeBack files outcome.files (files.resolve path)
  outcome.output.forM IO.println
  outcome.errorOutput.forM IO.eprintln
  match outcome.ending with
  | .broken b => IO.eprintln b.message
  | _ => pure ()
  return outcome.ending.exitCode.toUInt32
