import OperationHooks.Compilation
import OperationHooks.GraphQL.Reader
import OperationHooks.Settings.Decode

/-!
# Generated modules

Documents and raw options in, a module and its diagnostics out. The content of the documents never
makes this fail; only options do: they may be refused, name no strategy, or hold an integer that is
too long to be written.
-/

namespace OperationHooks

/-- A generated module: what goes before everything else, the constants of the fragments, the
bindings, and the diagnostics that are not part of the text. It is no text that can be written if
something torn went into it. -/
structure GeneratedModule where
  prepend : List String
  fragments : List DocumentConstant
  bindings : List Binding
  diagnostics : List Diagnostic
  isWhole : Bool

namespace GeneratedModule

/-- The text of the fragment constants. -/
def fragmentsText (fragments : List DocumentConstant) : String :=
  "\n".intercalate (fragments.map DocumentConstant.text)

/-- The text of the constants and bindings. -/
def content (m : GeneratedModule) : String :=
  "\n".intercalate (fragmentsText m.fragments :: m.bindings.map Binding.text)

/-- The text of the module. -/
def render (m : GeneratedModule) : String := "\n".intercalate (m.prepend ++ [m.content])

end GeneratedModule

/-- Why there is no module. -/
inductive GenerationError where
  | refused (refusals : List Refusal)
  | noStrategy (e : StrategyError)
  | unwritten (e : Json.WriteFault)

/-- The fragments that settings and documents make known, those from elsewhere first. -/
def knownFragments (settings : Settings) (document : Document) : FragmentLibrary where
  loaded :=
    settings.externalFragments.map (fun f => ⟨f.name, f.onType, none, true⟩)
      ++ (fragmentsOf document).map .ofFragment

/-- The module that a compiler makes of a document, with a helper in front. -/
def Compiler.assemble (c : Compiler) (helper? : Option String) (document : Document) :
    GeneratedModule :=
  let st := c.compile .empty document
  { prepend := c.importStatements st ++ helper?.toList
    fragments := c.fragmentConstants
    bindings := st.bindings
    diagnostics := st.diagnostics
    isWhole := c.strategy?.all Strategy.isWhole }

/-- The module for documents under decoded settings. -/
def generateWith (settings : Settings) (documents : List Document) :
    Except GenerationError GeneratedModule :=
  match Strategy.ofFetcher settings.fetcher with
  | .error e => .error (.noStrategy e)
  | .ok strategy =>
    let document := documents.flatten
    let c : Compiler := ⟨settings, knownFragments settings document, some strategy⟩
    match strategy.writeHelper with
    | .error e => .error (.unwritten e)
    | .ok helper? => .ok (c.assemble helper? document)

/-- The module for documents under raw options. -/
def generate (options : Json) (documents : List Document) :
    Except GenerationError GeneratedModule :=
  match Decode.settings options with
  | .refused rs => .error (.refused rs)
  | .accepted settings => generateWith settings documents

end OperationHooks
