import OperationHooks.Files.Tree

/-!
# File systems

A tree of files and the folder in which a program works. Relative paths start there. A path is
followed step by step and every step but the last needs a folder to stand in, also one that stays;
what a path resolves to (`resolve`) is only reckoned, whether it exists or not.
-/

namespace OperationHooks

/-- Files, and the folder that relative paths start from. -/
structure FileSystem where
  root : FileNode
  here : List FileName

namespace FileSystem

/-- The place from which a path starts. -/
def start (fs : FileSystem) (path : String) : List FileName :=
  if Path.isAbsolute path then [] else fs.here

/-- The place that a step leads to. -/
def move (place : List FileName) : Step → List FileName
  | .stay => place
  | .up => place.dropLast
  | .down name => place ++ [name]

/-- The node that steps lead to. -/
def follow (root : FileNode) (place : List FileName) : List Step → Option FileNode
  | [] => root.find? place
  | step :: rest =>
    match root.find? place with
    | some (.folder _) => follow root (move place step) rest
    | _ => none

/-- What stands at a path. Nothing stands at the empty one. -/
def find? (fs : FileSystem) (path : String) : Option FileNode :=
  if path = "" then none else follow fs.root (fs.start path) (Path.steps path)

/-- The place that a path names, as seen from the root. -/
def resolve (fs : FileSystem) (path : String) : List FileName :=
  (Path.steps path).foldl move (fs.start path)

/-- The files with a content at a place. -/
def put (fs : FileSystem) (place : List FileName) (content : ByteArray) :
    Except FileNode.WriteFault FileSystem :=
  (fs.root.put content place).map (fun root => { fs with root })

/-! ### Changes -/

/-- The files in the working folder that are new or have another content, by path. -/
def changes (before after : FileSystem) : List (String × ByteArray) :=
  let files := ((after.root.find? after.here).map FileNode.files).getD []
  let changed := files.filter (fun f => !before.root.holds (before.here ++ f.1) f.2)
  let named := changed.map (fun f => ("/".intercalate (f.1.map FileName.text), f.2))
  named.mergeSort (fun a b => decide (a.1 ≤ b.1))

end FileSystem

end OperationHooks
