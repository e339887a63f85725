import OperationHooks.Json.Display
import OperationHooks.Settings.Basic
import OperationHooks.Settings.Refusal

/-!
# Decoding settings

Raw options come as a JSON value in which most things may be missing or written in two ways: each
option has a spelling in camel case and one with underscores, and the fetcher may be a word, a
mapping with its kind, or a mapping that shows its kind by its keys.

An option is looked up under both spellings, the camel case one first. Keys that were not used are
ignored at the top and refused inside a fetcher or a fragment.
-/

namespace OperationHooks

namespace Decode

/-! ### Plain values -/

/-- A text. -/
def text : Json → Decoded String
  | .str s => pure s
  | _ => .refuse .notString

/-- A text that is not empty. -/
def nonEmptyText : Json → Decoded String
  | .str s => if s = "" then .refuse .tooShort else pure s
  | _ => .refuse .notString

/-- A text, or nothing. -/
def textOrNull : Json → Decoded (Option String)
  | .null => pure none
  | .str s => pure (some s)
  | _ => .refuse .notString

/-- Members of a mapping, as they are. -/
def dictionary : Json → Decoded (List (String × Json))
  | .obj ms => pure ms
  | _ => .refuse .notDictionary

/-- Words for true, in small letters. -/
def trueWords : List String := ["1", "on", "t", "true", "y", "yes"]

/-- Words for false, in small letters. -/
def falseWords : List String := ["0", "off", "f", "false", "n", "no"]

/-- The number of signed integers of 64 bits below zero. -/
def negativeIntegers : Int := 0x8000000000000000

/-- A boolean: true and false, one and zero, or a word for one of them in letters of either case.
Numbers that 64 bits can hold are refused as numbers, others as what cannot be a boolean; a number
with a point has to stay above the least integer of 64 bits. -/
def boolean : Json → Decoded Bool
  | .bool b => pure b
  | .int n => if -negativeIntegers ≤ n ∧ n < negativeIntegers then ofInt n else .refuse .notBoolean
  | .float x =>
    match x.toInt? with
    | some n =>
      if -negativeIntegers < n ∧ n < negativeIntegers then ofInt n else .refuse .notBoolean
    | none => .refuse .notBoolean
  | .str s =>
    let word := String.ofList (s.toList.map Char.toLower)
    if trueWords.contains word then pure true
    else if falseWords.contains word then pure false
    else .refuse .badBoolean
  | _ => .refuse .notBoolean
where
  /-- One and zero. -/
  ofInt (n : Int) : Decoded Bool :=
    if n = 1 then pure true else if n = 0 then pure false else .refuse .badBoolean

/-! ### Members -/

/-- The spellings of an option, the preferred one first. -/
abbrev Spellings := List String

/-- The spelling that a mapping uses for an option, with its value. -/
def find? (spellings : Spellings) (members : List (String × Json)) : Option (String × Json) :=
  spellings.findSome? (fun k => (lookupMember k members).map (k, ·))

/-- An option that may be missing. -/
def optional {α : Type} (default : α) (decode : Json → Decoded α) (spellings : Spellings)
    (members : List (String × Json)) : Decoded α :=
  match find? spellings members with
  | none => pure default
  | some (k, v) => (decode v).under (.key k)

/-- An option that must be there; it is missed under its preferred spelling. -/
def required {α : Type} (decode : Json → Decoded α) (spellings : Spellings)
    (members : List (String × Json)) : Decoded α :=
  match find? spellings members with
  | none => .refused [⟨spellings.head?.toList.map .key, .missing⟩]
  | some (k, v) => (decode v).under (.key k)

/-- Keys that no option has used are refused, in the order in which they are given. -/
def noExtras (options : List Spellings) (members : List (String × Json)) : Decoded Unit :=
  let used := options.filterMap (fun s => (find? s members).map (·.1))
  match (members.map (·.1)).filter (fun k => !used.contains k) with
  | [] => pure ()
  | extras => .refused (extras.map (fun k => ⟨[.key k], .extra⟩))

/-- A mapping, named by what it stands for where a mapping is missed. -/
def model {α : Type} (name : String) (decode : List (String × Json) → Decoded α) :
    Json → Decoded α
  | .obj ms => decode ms
  | _ => .refuse (.notModel name)

/-! ### Fetchers -/

/-- The kinds of fetcher. -/
inductive FetcherKind where
  | browser | hardcoded | client | custom
deriving DecidableEq, Repr

/-- The word for a kind. -/
def FetcherKind.word : FetcherKind → String
  | .browser => "fetch"
  | .hardcoded => "hardcoded"
  | .client => "graphql-request"
  | .custom => "custom"

/-- The kinds, in the order in which messages list them. -/
def FetcherKind.all : List FetcherKind := [.browser, .hardcoded, .client, .custom]

/-- What a mapping of a kind is called where a mapping is missed. -/
def FetcherKind.modelName : FetcherKind → String
  | .browser => "BrowserFetch"
  | .hardcoded => "HardcodedFetch"
  | .client => "GraphQLClientFetch"
  | .custom => "CustomMapper"

/-- The kind of a fetcher, in a mapping of that kind. -/
def kindKey : Spellings := ["kind"]

/-- The endpoint of a hardcoded fetcher. -/
def endpointKey : Spellings := ["endpoint"]

/-- The request options of a hardcoded fetcher. -/
def paramsKey : Spellings := ["fetchParams", "fetch_params"]

/-- The function of a custom fetcher. -/
def functionKey : Spellings := ["func"]

/-- Whether a custom fetcher is lazy. -/
def lazyKey : Spellings := ["lazyVariables", "lazy_variables"]

/-- The word of a kind, where it is given. -/
def kindWord (kind : FetcherKind) : Json → Decoded Unit
  | .str s => if s = kind.word then pure () else .refuse (.notLiteral kind.word)
  | _ => .refuse (.notLiteral kind.word)

/-- A fetcher of a kind from its members. -/
def fetcherMembers (kind : FetcherKind) (ms : List (String × Json)) : Decoded Fetcher :=
  let checked := optional () (kindWord kind) kindKey ms
  match kind with
  | .browser =>
    (fun _ _ => Fetcher.browser) <$> checked <*> noExtras [kindKey] ms
  | .client =>
    (fun _ _ => Fetcher.client) <$> checked <*> noExtras [kindKey] ms
  | .hardcoded =>
    (fun _ endpoint params _ => Fetcher.hardcoded endpoint params) <$> checked
      <*> required nonEmptyText endpointKey ms
      <*> optional [] dictionary paramsKey ms
      <*> noExtras [kindKey, endpointKey, paramsKey] ms
  | .custom =>
    (fun _ function isLazy _ => Fetcher.custom function isLazy) <$> checked
      <*> required nonEmptyText functionKey ms
      <*> optional false boolean lazyKey ms
      <*> noExtras [kindKey, functionKey, lazyKey] ms

/-- A fetcher of a given kind. -/
def fetcherOfKind (kind : FetcherKind) : Json → Decoded Fetcher :=
  model kind.modelName (fetcherMembers kind)

/-- A fetcher whose kind is among its members. -/
def taggedFetcher (ms : List (String × Json)) : Decoded Fetcher :=
  match lookupMember "kind" ms with
  | none => .refuse .noTag
  | some tag =>
    let kind? := match tag with
      | .str s => FetcherKind.all.find? (fun k => k.word == s)
      | _ => none
    match kind? with
    | some kind => (fetcherMembers kind ms).under (.key kind.word)
    | none => .refuse (.unknownTag tag.plainDisplay (FetcherKind.all.map FetcherKind.word))

/-- A fetcher as options give it: nothing and two words stand for fetchers without parameters,
another word for a custom one, and a mapping shows its kind by its keys unless it names it. -/
def fetcher (v : Json) : Decoded Fetcher :=
  match v with
  | .null => pure .browser
  | .str s =>
    if s = FetcherKind.browser.word then pure .browser
    else if s = FetcherKind.client.word then pure .client
    else taggedFetcher [("kind", .str FetcherKind.custom.word), ("func", .str s)]
  | .obj ms =>
    let withKind (kind : FetcherKind) := taggedFetcher (("kind", .str kind.word) :: ms)
    if (lookupMember "kind" ms).isSome then taggedFetcher ms
    else if (lookupMember "endpoint" ms).any (!·.isFalsy) then withKind .hardcoded
    else if (lookupMember "func" ms).isSome then withKind .custom
    else .refuse (.unrecognized v.display)
  | _ => .refuse (.unrecognized v.display)

/-! ### Fragments from elsewhere -/

/-- The name of a fragment. -/
def nameKey : Spellings := ["name"]

/-- The type a fragment is on. -/
def onTypeKey : Spellings := ["onType", "on_type"]

/-- A fragment that is defined elsewhere. -/
def externalFragment : Json → Decoded ExternalFragment :=
  model "ExternalFragment" fun ms =>
    (fun name onType _ => ExternalFragment.mk name onType) <$> required text nameKey ms
      <*> optional "" text onTypeKey ms <*> noExtras [nameKey, onTypeKey] ms

/-- The items of a list from an index on, each decoded. -/
def items {α : Type} (decode : Json → Decoded α) (i : Nat) : List Json → Decoded (List α)
  | [] => pure []
  | v :: vs => List.cons <$> (decode v).under (.index i) <*> items decode (i + 1) vs

/-- A list. -/
def list {α : Type} (decode : Json → Decoded α) : Json → Decoded (List α)
  | .arr vs => items decode 0 vs
  | _ => .refuse .notList

/-! ### Settings -/

/-- The settings that members stand for; unknown keys are ignored. -/
def settingsMembers (ms : List (String × Json)) : Decoded Settings :=
  let d := Settings.default
  Settings.mk <$> optional d.fetcher fetcher ["fetcher"] ms
    <*> optional d.exposeQueryKeys boolean ["exposeQueryKeys", "expose_query_keys"] ms
    <*> optional d.omitOperationSuffix boolean ["omitOperationSuffix", "omit_operation_suffix"] ms
    <*> optional d.importOperationTypesFrom textOrNull
      ["importOperationTypesFrom", "import_operation_types_from"] ms
    <*> optional d.externalFragments (list externalFragment)
      ["externalFragments", "external_fragments"] ms
    <*> optional d.documentSuffix text ["documentVariableSuffix", "document_variable_suffix"] ms
    <*> optional d.fragmentSuffix text ["fragmentVariableSuffix", "fragment_variable_suffix"] ms
    <*> optional d.hookModule text ["hookModule", "hook_module"] ms

/-- The settings that raw options stand for. -/
def settings (raw : Json) : Decoded Settings :=
  if raw.isFalsy then settingsMembers [] else model "PluginConfig" settingsMembers raw

/-! ### Decoded parts given as options -/

/-- A part of the options that has been decoded on its own. -/
inductive Part where
  | fetcher (f : Fetcher)
  | fragment (f : ExternalFragment)

/-- A part that takes the place of the fetcher: a fetcher is taken as it is, and nothing else has
a kind. -/
def Part.asFetcher : Part → Decoded Fetcher
  | .fetcher f => pure f
  | .fragment _ => .refused [⟨[.key "fetcher"], .noTag⟩]

end Decode

end OperationHooks
