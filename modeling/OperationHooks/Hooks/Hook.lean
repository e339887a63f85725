import OperationHooks.Hooks.Summary

/-!
# Hooks

A generated hook and its text. All ways of fetching share these two shapes; they differ in the
parameters a hook takes first, in the call that runs a query, and in the function that runs a
mutation.
-/

namespace OperationHooks

/-- A hook of the data library and the type of its options. -/
structure HookNames where
  hook : String
  options : String
deriving DecidableEq, Repr

/-- What the data library offers, and the module it is imported from. -/
structure HookLibrary where
  query : HookNames
  mutation : HookNames
  module : String
deriving DecidableEq, Repr

/-- The hooks of the data library in a given module. -/
def HookLibrary.inModule (module : String) : HookLibrary where
  query := ⟨"useQuery", "UseQueryOptions"⟩
  mutation := ⟨"useMutation", "UseMutationOptions"⟩
  module := module

/-- A hook to be written: what it is for, what it is built on, the parameters before the common
ones, and the call or function that fetches. -/
inductive Hook where
  | query (op : OperationSummary) (names : HookNames) (params : List String) (call : String)
  | mutation (op : OperationSummary) (names : HookNames) (params : List String)
      (function : String)

namespace Hook

/-- The operation a hook is for. -/
def operation : Hook → OperationSummary
  | .query op _ _ _ => op
  | .mutation op _ _ _ => op

/-- What a hook is built on. -/
def names : Hook → HookNames
  | .query _ n _ _ => n
  | .mutation _ n _ _ => n

/-- A parameter on a line of its own. -/
def paramLine (param : String) : String := "      " ++ param ++ ","

/-- The type arguments of a query hook. -/
def queryTypes (op : OperationSummary) : String := "<" ++ op.resultType ++ ", TError, TData>"

/-- The type arguments of a mutation hook. -/
def mutationTypes (op : OperationSummary) : String :=
  "<" ++ op.resultType ++ ", TError, " ++ op.variablesType ++ ", TContext>"

/-- The lines of a hook. -/
def lines : Hook → List String
  | .query op names params call =>
    ["export const " ++ op.hookName ++ " = <",
      "      TData = " ++ op.resultType ++ ",",
      "      TError = unknown",
      "    >("]
    ++ (params ++ [op.queryVariables]).map paramLine
    ++ ["      options?: " ++ names.options ++ queryTypes op,
      "    ) =>",
      "    " ++ names.hook ++ queryTypes op ++ "(",
      "      " ++ op.queryKey ++ ",",
      "      " ++ call ++ ",",
      "      options",
      "    );"]
  | .mutation op names params function =>
    ["export const " ++ op.hookName ++ " = <",
      "      TError = unknown,",
      "      TContext = unknown",
      "    >("]
    ++ params.map paramLine
    ++ ["      options?: " ++ names.options ++ mutationTypes op,
      "    ) =>",
      "    " ++ names.hook ++ mutationTypes op ++ "(",
      "      " ++ function ++ ",",
      "      options",
      "    );"]

/-- The text of a hook. -/
def text (h : Hook) : String := "\n".intercalate h.lines

/-- The statement that lets other code ask for the key of a query. -/
def keyAccessor (op : OperationSummary) : String :=
  op.hookName ++ ".getKey = (" ++ op.queryVariables ++ ") => " ++ op.queryKey ++ ";"

end Hook

end OperationHooks
