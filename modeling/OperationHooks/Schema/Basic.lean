import OperationHooks.Schema.Remark
import OperationHooks.Schema.Check

/-!
# Schemas

What the rest of the program may ask of a schema: the types at which operations start, and the
types there are. A schema comes from a document without faults.
-/

namespace OperationHooks

/-- A schema: the types at which operations start, and all types by name. -/
structure Schema where
  query? : Option String
  mutation? : Option String
  subscription? : Option String
  types : List String
deriving DecidableEq, Repr

namespace Schema

/-! ### References -/

/-- The types that fields refer to. -/
def fieldReferences (fields : List FieldDefinition) : List Name :=
  fields.flatMap (fun f => f.arguments.map (·.type.base) ++ [f.type.base])

/-- The types that a type refers to. -/
def references : TypeBody → List Name
  | .scalar => []
  | .object interfaces fields => interfaces ++ fieldReferences fields
  | .interface interfaces fields => interfaces ++ fieldReferences fields
  | .union members => members
  | .enum _ => []
  | .input fields => fields.map (·.type.base)

/-- The types that a definition refers to. A standard type stays what it is, whatever a document
defines by its name. -/
def definitionReferences : Definition → List Name
  | .type t => if standardTypes.contains t.name.text then [] else references t.body
  | .typeExtension t => if standardTypes.contains t.name.text then [] else references t.body
  | .directive d => d.arguments.map (·.type.base)
  | _ => []

/-! ### Roots -/

/-- The name of the type at which operations of a kind start, unless the schema says otherwise. -/
def usualRoot : OperationKind → String
  | .query => "Query"
  | .mutation => "Mutation"
  | .subscription => "Subscription"

/-- The type at which operations of a kind start: the one that the schema says. Where a document
does not define its schema, a type with the usual name takes precedence. -/
def rootOf (document : Document) (kind : OperationKind) : Option String :=
  let said := ((document.filterMap (·.schemaPart?)).flatMap (·.roots)).find? (·.1 = kind)
  let type? := said.map (·.2.text)
  if (document.filterMap (·.schema?)).isEmpty then
    if ((document.filterMap (·.type?)).map (·.name.text)).contains (usualRoot kind)
    then some (usualRoot kind) else type?
  else type?

/-- The types at which operations start. -/
def rootsOf (document : Document) : List String :=
  [OperationKind.query, .mutation, .subscription].filterMap (rootOf document)

/-! ### Types -/

/-- The standard scalars that every schema has, because it describes itself with them. -/
def selfDescription : List String := ["String", "Boolean"]

/-- The types of a schema. -/
def typesOf (document : Document) : List String :=
  let defined := (document.filterMap (·.type?)).map (·.name.text)
  let referred := (document.flatMap definitionReferences).map Name.text ++ rootsOf document
  let all := selfDescription ++ defined ++ referred.filter standardScalars.contains
  let shown := all.eraseDups.filter (fun t => !"__".toList.isPrefixOf t.toList)
  shown.mergeSort (fun a b => decide (a ≤ b))

/-! ### Schemas -/

/-- Why a document gives no schema: it has faults, or a remark has no text. -/
inductive Refused where
  | faulty (faults : List SchemaFault)
  | unassembled (e : AssemblyError)

/-- The schema that a document defines, or why it gives none. -/
def ofDocument (document : Document) : Except Refused Schema :=
  match schemaFaults document, AssemblyError.of? document with
  | [], none => .ok
    { query? := rootOf document .query
      mutation? := rootOf document .mutation
      subscription? := rootOf document .subscription
      types := typesOf document }
  | [], some e => .error (.unassembled e)
  | faults, _ => .error (.faulty faults)

end Schema

end OperationHooks
