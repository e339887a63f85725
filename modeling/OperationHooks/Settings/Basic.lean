import OperationHooks.Json.Value

/-!
# Settings

What a run is told: how generated code fetches, how generated names are formed, which fragments
come from elsewhere. Settings are decoded from raw options in `OperationHooks.Settings.Decode`.
-/

namespace OperationHooks

/-- How generated code fetches. -/
inductive Fetcher where
  /-- The caller hands over the endpoint and the request options. -/
  | browser
  /-- Endpoint and request options are part of the generated code. -/
  | hardcoded (endpoint : String) (params : List (String × Json))
  /-- The caller hands over a client. -/
  | client
  /-- A function of the user fetches; if it is lazy, it takes the variables only when a mutation
  is run. -/
  | custom (mapper : String) (isLazy : Bool)

/-- A fragment that is defined outside the documents. -/
structure ExternalFragment where
  name : String
  onType : String
deriving DecidableEq, Repr

/-- The settings of a run. -/
structure Settings where
  fetcher : Fetcher
  exposeQueryKeys : Bool
  omitOperationSuffix : Bool
  importOperationTypesFrom : Option String
  externalFragments : List ExternalFragment
  documentSuffix : String
  fragmentSuffix : String
  hookModule : String

/-- What stands before the types of an operation: the namespace they are imported under, if there
is one. -/
def Settings.typePrefix (s : Settings) : String :=
  match s.importOperationTypesFrom with
  | none => ""
  | some "" => ""
  | some ns => ns ++ "."

/-- The settings of a run that is told nothing. -/
def Settings.default : Settings where
  fetcher := .browser
  exposeQueryKeys := false
  omitOperationSuffix := false
  importOperationTypesFrom := none
  externalFragments := []
  documentSuffix := "Document"
  fragmentSuffix := "FragmentDoc"
  hookModule := "react-query"

end OperationHooks
