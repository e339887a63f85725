import OperationHooks.Files.Path

/-!
# Output files

Generated modules are TypeScript, and the name of the file has to say so.
-/

namespace OperationHooks

namespace OutputFile

/-- The suffixes of files that a module may be written to. -/
def suffixes : List String := [".ts", ".tsx"]

/-- A file that a module may not be written to. -/
structure Unsupported where
  file : String
deriving DecidableEq, Repr

/-- The wording of the refusal. -/
def Unsupported.message (u : Unsupported) : String :=
  "Plugin \"typescript-react-query\" requires extension to be \".ts\" or \".tsx\"! Got: "
    ++ u.file

/-- Whether a module may be written to a file. -/
def isSupported (file : String) : Bool := suffixes.contains (Path.suffix file)

/-- Refuses a file that a module may not be written to. -/
def check (file : String) : Except Unsupported Unit :=
  if isSupported file then .ok () else .error ⟨file⟩

end OutputFile

end OperationHooks
