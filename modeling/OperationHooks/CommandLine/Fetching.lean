import OperationHooks.Json.Reader
import OperationHooks.Settings.Decode
import OperationHooks.Text.Quoted

/-!
# Options about fetching

The options of the command line that say how generated code fetches, put together into one fetcher
option. Some of them exclude each other.
-/

namespace OperationHooks

namespace CommandLine

/-- An option that is misused. -/
inductive Misuse where
  | fetchParam (item : String)
  | endpointWithFetcher (fetcher : String)
  | lazyWithEndpoint
  | paramsWithoutEndpoint
  | lazyWithFetcher (fetcher : String)
deriving DecidableEq, Repr

/-- The option that is misused. -/
def Misuse.option : Misuse → String
  | .fetchParam _ => "--fetch-param"
  | .endpointWithFetcher _ => "--fetcher"
  | .lazyWithEndpoint => "--lazy-variables"
  | .paramsWithoutEndpoint => "--fetch-param"
  | .lazyWithFetcher _ => "--lazy-variables"

/-- The wording of the misuse. -/
def Misuse.message : Misuse → String
  | .fetchParam item => "Expected KEY=VALUE, got " ++ quoteText item
  | .endpointWithFetcher fetcher =>
    "--endpoint hardcodes the fetch fetcher and cannot be used with " ++ quoteText fetcher
  | .lazyWithEndpoint => "only applies to custom fetchers, not to --endpoint"
  | .paramsWithoutEndpoint => "requires --endpoint"
  | .lazyWithFetcher fetcher =>
    "only applies to custom fetchers, not to " ++ quoteText fetcher

/-! ### Request options -/

/-- The key of an item and the text behind its first equals sign. -/
def splitItem (item : String) : Option (String × String) :=
  let key := item.toList.takeWhile (· != '=')
  match item.toList.dropWhile (· != '=') with
  | [] => none
  | _ :: rest => if key = [] then none else some (String.ofList key, String.ofList rest)

/-- Why request options cannot be read. -/
inductive ItemFault where
  | misused (misuse : Misuse)
  | longInteger (digits : Nat)
deriving DecidableEq, Repr

/-- The wording of the fault. -/
def ItemFault.message : ItemFault → String
  | .misused misuse => misuse.message
  | .longInteger digits => longIntegerMessage (": value has " ++ toString digits ++ " digits")

/-- The value that a text stands for: what it spells as JSON, otherwise the text itself. -/
def itemValue (raw : String) : Except ItemFault Json :=
  match Json.read (some longestInteger) raw with
  | .ok value => .ok value
  | .error .notJson => .ok (.str raw)
  | .error (.longInteger digits) => .error (.longInteger digits)

/-- Request options written as `KEY=VALUE`; a key given twice keeps its place and takes the last
value. The first item without a key is refused, and so is one with an integer that is too long. -/
def fetchParams (items : List String) : Except ItemFault (List (String × Json)) :=
  go [] items
where
  /-- The options read so far, with those of the remaining items. -/
  go (params : List (String × Json)) :
      List String → Except ItemFault (List (String × Json))
    | [] => .ok params
    | item :: rest =>
      match splitItem item with
      | none => .error (.misused (.fetchParam item))
      | some (key, raw) =>
        match itemValue raw with
        | .error e => .error e
        | .ok value => go (insertMember key value params) rest

/-! ### The fetcher -/

/-- The fetchers that need no function of the user. -/
def builtinFetchers : List String :=
  [Decode.FetcherKind.browser.word, Decode.FetcherKind.client.word]

/-- The fetcher option that the options of the command line stand for. An empty endpoint counts
as none. -/
def fetcherOption (fetcher : String) (endpoint? : Option String)
    (params : List (String × Json)) (isLazy : Bool) : Except Misuse Json :=
  match endpoint?.filter (· ≠ "") with
  | some endpoint =>
    if fetcher ≠ Decode.FetcherKind.browser.word then .error (.endpointWithFetcher fetcher)
    else if isLazy then .error .lazyWithEndpoint
    else .ok (.obj [("endpoint", .str endpoint), ("fetchParams", .obj params)])
  | none =>
    if params ≠ [] then .error .paramsWithoutEndpoint
    else if isLazy then
      if builtinFetchers.contains fetcher then .error (.lazyWithFetcher fetcher)
      else .ok (.obj [("func", .str fetcher), ("lazyVariables", .bool true)])
    else .ok (.str fetcher)

end CommandLine

end OperationHooks
