import OperationHooks.Files.System

/-!
# Collections of files

The files that a path stands for: the file itself, or the files at any depth of a folder, with one
of the given endings. They are in the order of their paths, character by character.
-/

namespace OperationHooks

/-- A file that was found: the path to open it by, and what it holds. -/
structure FoundFile where
  path : String
  content : ByteArray

/-- Whether a text ends in one of the endings. -/
def hasEnding (endings : List String) (text : List Char) : Bool :=
  endings.any (fun e => e.toList.isSuffixOf text)

/-- Files in the order of their paths. -/
def sortByPath (files : List FoundFile) : List FoundFile :=
  files.mergeSort (fun a b => decide (a.path ≤ b.path))

/-- The files below a path whose names have one of the endings. -/
def foundBelow (path : String) (endings : List String) (node : FileNode) : List FoundFile :=
  let wanted := node.files.filter (fun f =>
    (f.1.getLast?.map (fun n => hasEnding endings n.chars)).getD false)
  wanted.map (fun f => ⟨Path.join path f.1, f.2⟩)

/-- The files that a path stands for. -/
def FileSystem.collect (fs : FileSystem) (path : String) (endings : List String) :
    List FoundFile :=
  match fs.find? path with
  | none => []
  | some (.file content) => if hasEnding endings path.toList then [⟨path, content⟩] else []
  | some (.folder entries) => sortByPath (foundBelow path endings (.folder entries))

end OperationHooks
