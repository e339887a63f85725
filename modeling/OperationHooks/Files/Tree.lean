import OperationHooks.Files.Path

/-!
# Trees of files

A folder holds files and folders under names. It is kept as a list of entries in which the first of
a name counts, so that looking things up (`find?`), listing them (`files`) and writing (`put`) mean
the same files whatever list it is.
-/

namespace OperationHooks

/-- A file, or a folder with its entries. -/
inductive FileNode where
  | file (content : ByteArray)
  | folder (entries : List (FileName × FileNode))

namespace FileNode

/-! ### Looking up -/

/-- The node under a name. -/
def child? (name : FileName) : List (FileName × FileNode) → Option FileNode
  | [] => none
  | (n, node) :: rest => if n = name then some node else child? name rest

/-- The node that names lead to, one folder after the other. -/
def find? : FileNode → List FileName → Option FileNode
  | node, [] => some node
  | .file _, _ :: _ => none
  | .folder entries, name :: rest => (child? name entries).bind (·.find? rest)

/-- The content of the file that names lead to. -/
def content? (node : FileNode) (names : List FileName) : Option ByteArray :=
  match node.find? names with
  | some (.file content) => some content
  | _ => none

/-- Whether the file that names lead to has a content. -/
def holds (node : FileNode) (names : List FileName) (content : ByteArray) : Bool :=
  (node.content? names).any (·.data == content.data)

/-! ### Listing -/

mutual

/-- The files of a node at any depth: the names that lead there, and the content. -/
def files : FileNode → List (List FileName × ByteArray)
  | .file content => [([], content)]
  | .folder entries => filesOfEntries entries

/-- The files below entries. -/
def filesOfEntries : List (FileName × FileNode) → List (List FileName × ByteArray)
  | [] => []
  | (name, node) :: rest =>
    node.files.map (fun f => (name :: f.1, f.2))
      ++ (filesOfEntries rest).filter (fun f => f.1.head? ≠ some name)

end

/-! ### Writing -/

/-- Why a file cannot be written: the place is a folder, or there is a file where its folder has to
be, directly above it or higher up. -/
inductive WriteFault where
  | isFolder
  | parentIsFile
  | ancestorIsFile
deriving DecidableEq, Repr

/-- Entries with another node under a name that they hold. -/
def replace (name : FileName) (node : FileNode) :
    List (FileName × FileNode) → List (FileName × FileNode)
  | [] => []
  | (n, old) :: rest => if n = name then (n, node) :: rest else (n, old) :: replace name node rest

/-- Folders inside each other, down to one file. -/
def chain (content : ByteArray) : List FileName → FileNode
  | [] => .file content
  | name :: rest => .folder [(name, chain content rest)]

/-- The tree with a content at the place that names lead to. Folders that are missing on the way
are made. -/
def put (content : ByteArray) : List FileName → FileNode → Except WriteFault FileNode
  | [], .file _ => .ok (.file content)
  | [], .folder _ => .error .isFolder
  | [_], .file _ => .error .parentIsFile
  | _ :: _ :: _, .file _ => .error .ancestorIsFile
  | name :: rest, .folder entries =>
    match child? name entries with
    | none => .ok (.folder (entries ++ [(name, chain content rest)]))
    | some node => (put content rest node).map (fun n => .folder (replace name n entries))

/-- The tree with a folder at the place that names lead to; a file on the way stays. -/
def makeFolder : List FileName → FileNode → FileNode
  | [], node => node
  | _ :: _, .file content => .file content
  | name :: rest, .folder entries =>
    match child? name entries with
    | none => .folder (entries ++ [(name, makeFolder rest (.folder []))])
    | some node => .folder (replace name (makeFolder rest node) entries)

end FileNode

end OperationHooks
