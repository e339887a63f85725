import OperationHooks.Text.Split

/-!
# Paths

A path is a text in which slashes separate names. An empty name and a single dot stay where they
are, two dots go up. Between the slashes of a path there is a name or one of these, and nothing
else: `FileName` holds what makes it a name.
-/

namespace OperationHooks

/-! ### Names -/

/-- What may name a file or a folder: nothing that moves, and nothing with a slash. -/
def isFileName (name : List Char) : Prop :=
  name ≠ [] ∧ name ≠ ['.'] ∧ name ≠ ['.', '.'] ∧ '/' ∉ name

instance (name : List Char) : Decidable (isFileName name) :=
  inferInstanceAs (Decidable (_ ∧ _ ∧ _ ∧ _))

/-- The name of a file or a folder. -/
structure FileName where
  chars : List Char
  isName : isFileName chars
deriving DecidableEq

namespace FileName

/-- The name as a text. -/
def text (n : FileName) : String := String.ofList n.chars

/-- What stands from the last dot of a name on, provided that something stands before and behind
that dot. -/
def suffix (n : FileName) : List Char :=
  let behind := (n.chars.reverse.takeWhile (· != '.')).reverse
  let before := n.chars.take (n.chars.length - behind.length - 1)
  if behind.length < n.chars.length ∧ behind ≠ [] ∧ before ≠ [] then '.' :: behind else []

end FileName

/-! ### Steps -/

/-- A step of a path. -/
inductive Step where
  | stay
  | up
  | down (name : FileName)
deriving DecidableEq

/-- The step that stands between two slashes. -/
def Step.ofPart (part : List Char) : Step :=
  if part = ['.', '.'] then .up else if h : isFileName part then .down ⟨part, h⟩ else .stay

namespace Path

/-- The steps of a path. -/
def steps (path : String) : List Step := (splitAtChar '/' path.toList).map Step.ofPart

/-- Whether a path starts at the root. -/
def isAbsolute (path : String) : Bool := path.toList.head? == some '/'

/-- The last step of a path that goes somewhere. -/
def lastStep (path : String) : Step := ((steps path).filter (· ≠ .stay)).getLast?.getD .stay

/-- The suffix of a path: that of its last name. -/
def suffix (path : String) : String :=
  match lastStep path with
  | .down n => String.ofList n.suffix
  | _ => ""

/-- A path below another one; a slash that is there already is not doubled. -/
def join (path : String) (below : List FileName) : String :=
  let names := "/".intercalate (below.map FileName.text)
  if path.toList.getLast? = some '/' then path ++ names else path ++ "/" ++ names

/-- The path of a place below the root. -/
def ofNames (names : List FileName) : String := join "/" names

end Path

end OperationHooks
