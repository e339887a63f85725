import OperationHooks.Fragments.Library
import OperationHooks.GraphQL.Printer
import OperationHooks.Hooks.Strategy
import OperationHooks.Naming

/-!
# Compiling operations

Operations are compiled one after the other. The state of a run only grows: identifiers to import,
statements asked for, bindings, diagnostics, and the number of operations met. What is emitted for
an operation depends on the operation, the settings and the fragments it reaches, never on the
state.
-/

namespace OperationHooks

/-! ### Constants -/

/-- The text of a definition as a constant of the generated module, with the constants of the
fragments that are sent along. -/
structure DocumentConstant where
  name : String
  body : String
  embedded : List String
deriving DecidableEq, Repr

/-- A line moved in by four spaces; an empty one stays empty. -/
def moveIn (line : List Char) : List Char :=
  if line = [] then [] else ' ' :: ' ' :: ' ' :: ' ' :: line

/-- The lines inside the template literal of a constant. -/
def DocumentConstant.lines (c : DocumentConstant) : List String :=
  ((splitLines (TypeScript.escapeTemplate c.body.toList)).map
      (fun l => String.ofList (moveIn l)))
    ++ c.embedded.map (fun v => "    $\x7b" ++ v ++ "\x7d")

/-- The statement that declares a constant. -/
def DocumentConstant.text (c : DocumentConstant) : String :=
  "\n".intercalate (("export const " ++ c.name ++ " = \x60") :: c.lines) ++ "\x60;"

/-! ### Diagnostics -/

/-- What is worth telling about an operation. -/
inductive Concern where
  | anonymous (kind : OperationKind) (hookName : String)
  | subscription (name : String)
deriving DecidableEq, Repr

/-- The wording of a concern. -/
def Concern.message : Concern → String
  | .anonymous kind hookName =>
    "Anonymous " ++ kind.keyword ++ " generates \"" ++ hookName
      ++ "\", which may clash with the imported hooks. Give the operation a name."
  | .subscription name =>
    "Plugin \"typescript-react-query\" does not support GraphQL Subscriptions at the moment! "
      ++ "Ignoring \"" ++ name ++ "\"..."

/-- A concern with the name of its operation. -/
structure Diagnostic where
  operation : String
  concern : Concern
deriving DecidableEq, Repr

/-! ### State -/

/-- A binding: the constant of an operation, its hook, and whether its key can be asked for. -/
structure Binding where
  document : DocumentConstant
  hook : Hook
  exposesKey : Bool

/-- The text of a binding. -/
def Binding.text (b : Binding) : String :=
  "\n".intercalate ([b.document.text, b.hook.text]
    ++ if b.exposesKey then [Hook.keyAccessor b.hook.operation] else [])

/-- A list with new items behind it; what is there already is not repeated. -/
def addNew (known new : List String) : List String :=
  new.foldl (fun xs x => if x ∈ xs then xs else xs ++ [x]) known

/-- What a run has come to. -/
structure RunState where
  identifiers : List String
  imports : List String
  bindings : List Binding
  diagnostics : List Diagnostic
  operationCount : Nat

namespace RunState

/-- The state before the first operation. -/
def empty : RunState := ⟨[], [], [], [], 0⟩

/-- Identifiers that emitted code refers to. -/
def useIdentifiers (st : RunState) (names : List String) : RunState :=
  { st with identifiers := addNew st.identifiers names }

/-- Statements that a strategy asks for. -/
def addImports (st : RunState) (statements : List String) : RunState :=
  { st with imports := addNew st.imports statements }

/-- What a hook needs is noted. -/
def noteHook (st : RunState) (s : Strategy) (h : Hook) : RunState :=
  (st.addImports s.imports).useIdentifiers [h.names.hook, h.names.options]

/-- A concern is noted. -/
def warn (st : RunState) (operation : String) (concern : Concern) : RunState :=
  { st with diagnostics := st.diagnostics ++ [⟨operation, concern⟩] }

/-- A binding is added. -/
def bind (st : RunState) (b : Binding) : RunState := { st with bindings := st.bindings ++ [b] }

end RunState

/-! ### Compiling -/

/-- What compilation works with. Without a strategy operations are counted and nothing is built
for them. -/
structure Compiler where
  settings : Settings
  library : FragmentLibrary
  strategy? : Option Strategy

namespace Compiler

/-- The hooks of the data library. -/
def hooks (c : Compiler) : HookLibrary := .inModule c.settings.hookModule

/-- The name of the constant for a fragment. -/
def fragmentConstant (c : Compiler) (name : String) : String :=
  Naming.affixed "" name c.settings.fragmentSuffix

/-- The name of an operation; an anonymous one has the empty name. -/
def operationName (o : Operation) : String := (o.name?.map Name.text).getD ""

/-- The name of the constant for the document of an operation. -/
def documentName (c : Compiler) (o : Operation) : String :=
  Naming.affixed "" (operationName o) c.settings.documentSuffix

/-- What stands behind the names of hooks and types. -/
def kindSuffix (c : Compiler) (kind : OperationKind) : String :=
  if c.settings.omitOperationSuffix then "" else kind.word

/-- An operation as its hook will see it. -/
def summarize (c : Compiler) (o : Operation) : OperationSummary :=
  let name := operationName o
  let suffix := c.kindSuffix o.kind
  { name
    kind := o.kind
    document := c.documentName o
    bindingName := Naming.affixed "" name suffix
    resultType := c.settings.typePrefix ++ Naming.affixed "" name suffix
    variablesType := c.settings.typePrefix ++ Naming.affixed "" name (suffix ++ "Variables")
    requiresVariables := o.requiresVariables }

/-- The constant for a definition, with every known fragment that it reaches. -/
def documentConstant (c : Compiler) (name : String) (d : Definition) : DocumentConstant where
  name := name
  body := d.text
  embedded := (c.library.transitive d.spreads).map c.fragmentConstant

/-- The hook for an operation; a subscription has none. -/
def hook? (c : Compiler) (s : Strategy) (o : Operation) : Option Hook :=
  match o.kind with
  | .query => some (s.queryHook c.hooks (c.summarize o))
  | .mutation => some (s.mutationHook c.hooks (c.summarize o))
  | .subscription => none

/-- What is worth telling about an operation. -/
def concern? (c : Compiler) (o : Operation) : Option Concern :=
  match o.kind with
  | .subscription => some (.subscription (operationName o))
  | kind =>
    if o.name?.isNone then some (.anonymous kind (c.summarize o).hookName) else none

/-- The binding that a hook makes with its operation. -/
def binding (c : Compiler) (o : Operation) (h : Hook) : Binding where
  document := c.documentConstant (c.documentName o) (.operation o)
  hook := h
  exposesKey := c.settings.exposeQueryKeys && o.kind == .query

/-- One operation is compiled. -/
def compileOperation (c : Compiler) (st : RunState) (o : Operation) : RunState :=
  let counted := { st with operationCount := st.operationCount + 1 }
  match c.strategy? with
  | none => counted
  | some s =>
    let warned :=
      match c.concern? o with
      | some concern => counted.warn (operationName o) concern
      | none => counted
    match c.hook? s o with
    | some h => (warned.noteHook s h).bind (c.binding o h)
    | none => warned

/-- The operations of a document are compiled in order. -/
def compile (c : Compiler) (st : RunState) (document : Document) : RunState :=
  (operationsOf document).foldl c.compileOperation st

/-! ### What surrounds the bindings -/

/-- The constants for the fragments that documents define. Each holds its own definition only;
the documents that need it embed it. -/
def fragmentConstants (c : Compiler) : List DocumentConstant :=
  c.library.definitionsInOrder.filterMap (fun f =>
    f.definition?.map (fun d => ⟨c.fragmentConstant f.name, d.text, []⟩))

/-- The statement that imports the hooks of the data library, if there is something to import. -/
def hookImport? (c : Compiler) (st : RunState) : Option String :=
  if c.strategy?.isNone ∨ st.operationCount = 0 ∨ st.identifiers = [] then none
  else some (Mapper.importNamed (", ".intercalate st.identifiers) c.settings.hookModule)

/-- The import statements of the module. -/
def importStatements (c : Compiler) (st : RunState) : List String :=
  st.imports ++ (c.hookImport? st).toList

end Compiler

end OperationHooks
