import OperationHooks.GraphQL.Document

/-!
# Operations as hooks see them

What has to be known of an operation to write a hook for it, and the small texts that every way of
fetching shares.
-/

namespace OperationHooks

/-- An operation as a hook sees it; an anonymous one has the empty name. -/
structure OperationSummary where
  name : String
  kind : OperationKind
  document : String
  bindingName : String
  resultType : String
  variablesType : String
  requiresVariables : Bool
deriving DecidableEq, Repr

/-- The word for a kind of operation in the names of types and hooks. -/
def OperationKind.word : OperationKind → String
  | .query => "Query"
  | .mutation => "Mutation"
  | .subscription => "Subscription"

/-- The kind that a word stands for. -/
def OperationKind.ofWord? (word : String) : Option OperationKind :=
  [query, mutation, subscription].find? (fun k => k.word == word)

namespace OperationSummary

/-- The name of the hook. -/
def hookName (op : OperationSummary) : String := "use" ++ op.bindingName

/-- The key under which the result of a query is kept: the declared name with the variables. -/
def queryKey (op : OperationSummary) : String := "['" ++ op.name ++ "', variables]"

/-- The parameter for the variables of a query; it may be left out unless one is required. -/
def queryVariables (op : OperationSummary) : String :=
  "variables" ++ (if op.requiresVariables then "" else "?") ++ ": " ++ op.variablesType

/-- The parameter for the variables of a mutation; the types of the hook see to it that they are
given. -/
def mutationVariables (op : OperationSummary) : String := "variables?: " ++ op.variablesType

/-- A function applied to the types of result and variables. -/
def typed (op : OperationSummary) (function : String) : String :=
  function ++ "<" ++ op.resultType ++ ", " ++ op.variablesType ++ ">"

end OperationSummary

end OperationHooks
