import OperationHooks.GraphQL.BlockString
import OperationHooks.GraphQL.Name

/-!
# Documents

The structure of a GraphQL document. Names and numbers carry their spelling rule
(`OperationHooks.GraphQL.Name`), strings are kept by value together with the way they are quoted,
and an empty selection set differs from none.
-/

namespace OperationHooks

/-! ### Values and types -/

/-- A string by value, written between single or between triple quotes. -/
inductive StringLiteral where
  | quoted (value : String)
  | block (value : BlockText)
deriving DecidableEq

/-- A literal, in which variables may occur. -/
inductive Value where
  | var (name : Name)
  | number (n : Number)
  | string (s : StringLiteral)
  | word (name : Name)
  | list (items : List Value)
  | object (fields : List (Name × Value))

/-- A reference to a type. -/
inductive TypeRef where
  | named (name : Name)
  | list (of : TypeRef)
  | nonNull (of : TypeRef)
deriving DecidableEq

/-- The name at the bottom of a type reference. -/
def TypeRef.base : TypeRef → Name
  | .named n => n
  | .list t => t.base
  | .nonNull t => t.base

/-- A type that excludes null. -/
def TypeRef.isNonNull : TypeRef → Bool
  | .nonNull _ => true
  | _ => false

/-- Arguments in the order in which they are written. -/
abbrev Arguments := List (Name × Value)

/-- A directive with its arguments. -/
structure Directive where
  name : Name
  arguments : Arguments

/-! ### Operations and fragments -/

/-- A field without its selections. -/
structure Field where
  alias? : Option Name
  name : Name
  arguments : Arguments
  directives : List Directive

/-- What is selected of an object: a field with or without selections of its own, the selections
of a fragment, or selections under a type condition. -/
inductive Selection where
  | leaf (field : Field)
  | within (field : Field) (selections : List Selection)
  | spread (fragment : Name) (directives : List Directive)
  | inline (on? : Option Name) (directives : List Directive) (selections : List Selection)

/-- The three operations. -/
inductive OperationKind where
  | query | mutation | subscription
deriving DecidableEq, Repr

/-- The word that introduces an operation. -/
def OperationKind.keyword : OperationKind → String
  | .query => "query"
  | .mutation => "mutation"
  | .subscription => "subscription"

/-- The kind of operation that a word introduces. -/
def OperationKind.ofKeyword? (word : String) : Option OperationKind :=
  [query, mutation, subscription].find? (·.keyword == word)

/-- A variable of an operation. -/
structure VariableDefinition where
  description : Option StringLiteral
  name : Name
  type : TypeRef
  default? : Option Value
  directives : List Directive

/-- An operation. -/
structure Operation where
  description : Option StringLiteral
  kind : OperationKind
  name? : Option Name
  variableDefinitions : List VariableDefinition
  directives : List Directive
  selections : List Selection

/-- A fragment. -/
structure Fragment where
  description : Option StringLiteral
  name : Name
  on : Name
  directives : List Directive
  selections : List Selection

/-! ### Type definitions -/

/-- An argument, or a field of an input object. -/
structure InputValue where
  description : Option StringLiteral
  name : Name
  type : TypeRef
  default? : Option Value
  directives : List Directive

/-- A field of an object type or an interface. -/
structure FieldDefinition where
  description : Option StringLiteral
  name : Name
  arguments : List InputValue
  type : TypeRef
  directives : List Directive

/-- A value of an enumeration. -/
structure EnumValue where
  description : Option StringLiteral
  name : Name
  directives : List Directive

/-- What a type is made of. -/
inductive TypeBody where
  | scalar
  | object (interfaces : List Name) (fields : List FieldDefinition)
  | interface (interfaces : List Name) (fields : List FieldDefinition)
  | union (members : List Name)
  | enum (values : List EnumValue)
  | input (fields : List InputValue)

/-- A type, or an extension of one: an extension has no description. -/
structure TypeDefinition where
  description : Option StringLiteral
  name : Name
  directives : List Directive
  body : TypeBody

/-- The types at which the operations of a schema start. -/
structure SchemaDefinition where
  description : Option StringLiteral
  directives : List Directive
  roots : List (OperationKind × Name)

/-- A directive that a schema declares. -/
structure DirectiveDefinition where
  description : Option StringLiteral
  name : Name
  arguments : List InputValue
  directives : List Directive
  repeatable : Bool
  locations : List Name

/-- Directives added to the declaration of one. -/
structure DirectiveExtension where
  name : Name
  directives : List Directive

/-! ### Documents -/

/-- What a document consists of. -/
inductive Definition where
  | operation (o : Operation)
  | fragment (f : Fragment)
  | schema (s : SchemaDefinition)
  | schemaExtension (s : SchemaDefinition)
  | type (t : TypeDefinition)
  | typeExtension (t : TypeDefinition)
  | directive (d : DirectiveDefinition)
  | directiveExtension (d : DirectiveExtension)

/-- A document: its definitions in order. -/
abbrev Document := List Definition

/-- The operation that a definition is, if it is one. -/
def Definition.operation? : Definition → Option Operation
  | .operation o => some o
  | _ => none

/-- The fragment that a definition is, if it is one. -/
def Definition.fragment? : Definition → Option Fragment
  | .fragment f => some f
  | _ => none

/-- The operations of a document, in order. -/
def operationsOf (document : Document) : List Operation := document.filterMap (·.operation?)

/-- The fragments of a document, in order. -/
def fragmentsOf (document : Document) : List Fragment := document.filterMap (·.fragment?)

end OperationHooks
