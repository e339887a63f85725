import OperationHooks.Hooks.Hook
import OperationHooks.Json.Display
import OperationHooks.Mapper
import OperationHooks.Settings.Basic
import OperationHooks.TypeScript
import OperationHooks.Url.Absolute

/-!
# Ways of fetching

A strategy says how generated code performs its network calls: which parameters a hook takes for
it, how a query is called, how a mutation is run, and which helper the module needs. Everything
else about a hook is the same for all of them.
-/

namespace OperationHooks

/-- How generated code fetches, once the mapper of a custom fetcher has been read. -/
inductive Strategy where
  | browser
  | hardcoded (endpoint : String) (params : List (String × Json))
  | client
  | mapped (mapper : Mapper) (isLazy : Bool)

/-- Why there is no strategy for a fetcher. -/
inductive StrategyError where
  | badMapper (e : MapperError)
  | undecoded (shown : String)
deriving DecidableEq, Repr

/-- The wording of the error. -/
def StrategyError.message : StrategyError → String
  | .badMapper e => e.message
  | .undecoded shown => "Unsupported fetcher configuration: " ++ shown

namespace Strategy

/-- The strategy of a fetcher. -/
def ofFetcher : Fetcher → Except StrategyError Strategy
  | .browser => .ok .browser
  | .hardcoded endpoint params => .ok (.hardcoded endpoint params)
  | .client => .ok .client
  | .custom mapper isLazy =>
    match Mapper.read mapper with
    | .ok m => .ok (.mapped m isLazy)
    | .error e => .error (.badMapper e)

/-- A raw value is no fetcher before it is decoded. -/
def ofRaw (v : Json) : Except StrategyError Strategy := .error (.undecoded v.display)

/-! ### Calls -/

/-- The parameters that a hook takes for its strategy. -/
def params : Strategy → List String
  | .browser => ["dataSource: \x7b endpoint: string, fetchParams?: RequestInit \x7d"]
  | .client => ["client: GraphQLClient"]
  | _ => []

/-- The function that generated code calls. -/
def functionName : Strategy → String
  | .mapped m _ => m.symbol
  | _ => "fetcher"

/-- The arguments of a call, up to the variables. -/
def callArguments (op : OperationSummary) : Strategy → List String
  | .browser =>
    ["dataSource.endpoint", "dataSource.fetchParams || \x7b\x7d", op.document]
  | .client => ["client", op.document]
  | _ => [op.document]

/-- The call that fetches with the variables at hand. -/
def call (s : Strategy) (op : OperationSummary) : String :=
  op.typed s.functionName ++ "(" ++ ", ".intercalate (s.callArguments op ++ ["variables"]) ++ ")"

/-- The function that runs a mutation: it takes the variables, unless the user's function gives
back one that does. -/
def mutationFunction (s : Strategy) (op : OperationSummary) : String :=
  match s with
  | .mapped m true => op.typed m.symbol ++ "(" ++ op.document ++ ")"
  | s => "(" ++ op.mutationVariables ++ ") => " ++ s.call op ++ "()"

/-- The hook for a query. -/
def queryHook (s : Strategy) (hooks : HookLibrary) (op : OperationSummary) : Hook :=
  .query op hooks.query s.params (s.call op)

/-- The hook for a mutation. -/
def mutationHook (s : Strategy) (hooks : HookLibrary) (op : OperationSummary) : Hook :=
  .mutation op hooks.mutation s.params (s.mutationFunction op)

/-- The statements that a module with a hook of this strategy starts with. -/
def imports : Strategy → List String
  | .client => [Mapper.importNamed "GraphQLClient" "graphql-request"]
  | _ => []

/-! ### Helpers -/

/-- The expression for an endpoint: a literal for an absolute URL, otherwise an identifier that
holds a text. -/
def endpointExpression (endpoint : String) : String :=
  if Url.isAbsolute endpoint then Json.stringText endpoint else endpoint ++ " as string"

/-- The request options of a hardcoded fetcher: a request is posted unless the options say
otherwise. -/
def requestOptions (params : List (String × Json)) : List (String × Json) :=
  collectMembers (("method", .str "POST") :: params)

/-- The end of a helper that reads the response itself. -/
def responseLines : List String :=
  ["      body: JSON.stringify(\x7b query, variables \x7d),",
    "    \x7d);",
    "",
    "    const json = await res.json();",
    "",
    "    if (json.errors && json.errors.length > 0) \x7b",
    "      const \x7b message \x7d = json.errors[0];",
    "",
    "      throw new Error(message);",
    "    \x7d",
    "",
    "    return json.data;",
    "  \x7d",
    "\x7d"]

/-- The lines of a helper, behind an empty one: its parameters before the common ones, and its
body. -/
def helperLines (params : String) (body : List String) : List String :=
  ["", "function fetcher<TData, TVariables>(" ++ params
    ++ "query: string, variables?: TVariables) \x7b"] ++ body

/-- The line of a request option in the helper, from its name and the text of its value. -/
def optionText (name value : String) : String :=
  "      " ++ TypeScript.objectKey name ++ ": " ++ value ++ ","

/-- A request option in the helper. -/
def optionLine (option : String × Json) : String := optionText option.1 option.2.text

/-- The request options that the helper holds. -/
def fixedOptions : Strategy → List (String × Json)
  | .hardcoded _ params => requestOptions params
  | _ => []

/-- What the module needs besides its hooks, around the lines of its request options: a helper that
fetches, or the import of the user's function. -/
def helperAround (options : List String) : Strategy → Option String
  | .browser =>
    some ("\n".intercalate (helperLines "endpoint: string, requestInit: RequestInit, "
      (["  return async (): Promise<TData> => \x7b",
        "    const res = await fetch(endpoint, \x7b",
        "      method: 'POST',",
        "      ...requestInit,"] ++ responseLines)))
  | .hardcoded endpoint _ =>
    some ("\n".intercalate (helperLines ""
      (["  return async (): Promise<TData> => \x7b",
        "    const res = await fetch(" ++ endpointExpression endpoint ++ ", \x7b"]
        ++ options ++ responseLines)))
  | .client =>
    some ("\n".intercalate (helperLines "client: GraphQLClient, "
      ["  return async (): Promise<TData> => client.request<TData, TVariables>(query, variables);",
        "\x7d"]))
  | .mapped mapper _ => mapper.importStatement?

/-- What the module needs besides its hooks, each request option being as long as it is. -/
def helper? (s : Strategy) : Option String := s.helperAround (s.fixedOptions.map optionLine)

/-- A request option is written. -/
def writeOption (option : String × Json) : Except Json.WriteFault String :=
  (option.2.write (some longestInteger)).map (optionText option.1)

/-- What the module needs besides its hooks is written; this fails at a request option that cannot
be. -/
def writeHelper (s : Strategy) : Except Json.WriteFault (Option String) := do
  let options ← s.fixedOptions.mapM writeOption
  return s.helperAround options

/-- Whether the helper is a text throughout: no request option is torn. -/
def isWhole : Strategy → Bool
  | .hardcoded _ params => Json.haveWhole params
  | _ => true

end Strategy

end OperationHooks
