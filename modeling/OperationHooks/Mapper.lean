import OperationHooks.Text.Blank

/-!
# Mappers

A custom fetcher is named by a mapper: the bare name of a function that the generated module is
assumed to know, or `module#symbol`, where `default` and `default as name` stand for the default
export of the module.
-/

namespace OperationHooks

/-- A function that fetches. -/
inductive Mapper where
  | local (symbol : String)
  | named (module symbol : String)
  | defaultExport (module symbol : String)
deriving DecidableEq, Repr

/-- Why a text is no mapper. The text is the one without blanks at its ends. -/
inductive MapperError where
  | empty
  | incomplete (text : String)
deriving DecidableEq, Repr

/-- The wording of the error. -/
def MapperError.message : MapperError → String
  | .empty => "Custom fetcher mapper must not be empty"
  | .incomplete text =>
    "Invalid custom fetcher \"" ++ text ++ "\", expected \"<module>#<symbol>\""

namespace Mapper

/-! ### Reading -/

/-- Whether a text names a module. -/
def isExternal (text : String) : Bool := text.toList.contains '#'

/-- The name under which a default export is imported when no other is given. -/
def defaultSymbol : String := "customFetcher"

/-- The word for the default export. -/
def defaultWord : List Char := "default".toList

/-- What introduces a name for the default export. -/
def defaultAs : List Char := "default as ".toList

/-- The mapper that a module and a symbol name. -/
def ofParts (module symbol : List Char) : Mapper :=
  if symbol = defaultWord then .defaultExport (String.ofList module) defaultSymbol
  else if defaultAs.isPrefixOf symbol then
    .defaultExport (String.ofList module) (String.ofList (strip (symbol.drop defaultAs.length)))
  else .named (String.ofList module) (String.ofList symbol)

/-- The mapper that a text names. -/
def read (text : String) : Except MapperError Mapper :=
  let cs := strip text.toList
  if cs = [] then .error .empty
  else if !cs.contains '#' then .ok (.local (String.ofList cs))
  else
    let module := strip (cs.takeWhile (· != '#'))
    let symbol := strip ((cs.dropWhile (· != '#')).drop 1)
    if module = [] ∨ symbol = [] then .error (.incomplete (String.ofList cs))
    else .ok (ofParts module symbol)

/-! ### Importing -/

/-- The name by which generated code calls the function. -/
def symbol : Mapper → String
  | .local s => s
  | .named _ s => s
  | .defaultExport _ s => s

/-- The statement that imports a symbol by its name. -/
def importNamed (symbol module : String) : String :=
  "import \x7b " ++ symbol ++ " \x7d from '" ++ module ++ "';"

/-- The statement that imports a default export under a name. -/
def importDefault (symbol module : String) : String :=
  "import " ++ symbol ++ " from '" ++ module ++ "';"

/-- The statement that imports the function, unless it is local. -/
def importStatement? : Mapper → Option String
  | .local _ => none
  | .named m s => some (importNamed s m)
  | .defaultExport m s => some (importDefault s m)

end Mapper

end OperationHooks
