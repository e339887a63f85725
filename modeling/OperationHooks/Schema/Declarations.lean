import OperationHooks.GraphQL.Printer
import OperationHooks.Schema.Fault

/-!
# Declarations

What a document declares, as far as its other definitions are checked against it: types, and
directives with their arguments and places. Some types and directives need no definition; one of
the document takes precedence over a standard directive of its name.
-/

namespace OperationHooks

/-! ### Types -/

/-- Scalars that need no definition. -/
def standardScalars : List String := ["String", "Int", "Float", "Boolean", "ID"]

/-- Types that describe a schema and need no definition. -/
def introspectionTypes : List String :=
  ["__Schema", "__Directive", "__DirectiveLocation", "__Type", "__Field", "__InputValue",
    "__EnumValue", "__TypeKind"]

/-- Types that need no definition. -/
def standardTypes : List String := standardScalars ++ introspectionTypes

/-- The type that a definition defines, if it defines one. -/
def Definition.type? : Definition → Option TypeDefinition
  | .type t => some t
  | _ => none

/-- The type or the part of a type that a definition gives. -/
def Definition.typePart? : Definition → Option TypeDefinition
  | .type t => some t
  | .typeExtension t => some t
  | _ => none

/-- The schema or the part of a schema that a definition gives. -/
def Definition.schemaPart? : Definition → Option SchemaDefinition
  | .schema s => some s
  | .schemaExtension s => some s
  | _ => none

/-- The schema that a definition gives in full, if it does. -/
def Definition.schema? : Definition → Option SchemaDefinition
  | .schema s => some s
  | _ => none

/-- The directive that a definition declares, if it declares one. -/
def Definition.directive? : Definition → Option DirectiveDefinition
  | .directive d => some d
  | _ => none

/-- Directives that a definition puts on the declaration of a directive, if it is one or an
extension of one. -/
def Definition.directivePart? : Definition → Option DirectiveExtension
  | .directive d => some ⟨d.name, d.directives⟩
  | .directiveExtension d => some d
  | _ => none

/-! ### Directives -/

/-- What a directive takes and where it may stand. Arguments come with their type as a text if they
are required. -/
structure DeclaredDirective where
  name : String
  arguments : List (String × Option String)
  places : List String
  repeatable : Bool

/-- The required type of an argument, if it is required: its type excludes null and it has no
default. -/
def InputValue.requiredType? (v : InputValue) : Option String :=
  if v.type.isNonNull && v.default?.isNone then some v.type.text else none

/-- What a definition declares. -/
def DeclaredDirective.ofDefinition (d : DirectiveDefinition) : DeclaredDirective where
  name := d.name.text
  arguments := d.arguments.map (fun v => (v.name.text, v.requiredType?))
  places := d.locations.map Name.text
  repeatable := d.repeatable

/-- The places of directives that steer the execution of a selection. -/
def selectionPlaces : List DirectivePlace := [.field, .fragmentSpread, .inlineFragment]

/-- Directives that need no definition. -/
def standardDirectives : List DeclaredDirective :=
  [ ⟨"include", [("if", some "Boolean!")], selectionPlaces.map (·.word), false⟩,
    ⟨"skip", [("if", some "Boolean!")], selectionPlaces.map (·.word), false⟩,
    ⟨"deprecated", [("reason", none)],
      [DirectivePlace.fieldDefinition, .argumentDefinition, .inputFieldDefinition, .enumValue,
        .directiveDefinition].map (·.word), false⟩,
    ⟨"specifiedBy", [("url", some "String!")], [DirectivePlace.scalar.word], false⟩,
    ⟨"oneOf", [], [DirectivePlace.inputObject.word], false⟩ ]

/-- What a document declares: the names of its types, the kinds they have, its directives. -/
structure Declarations where
  types : List (String × TypeKind)
  directives : List DeclaredDirective

/-- What a document declares; of definitions with the same name the last one comes first. -/
def Declarations.of (document : Document) : Declarations where
  types := ((document.filterMap (·.type?)).map (fun t => (t.name.text, t.body.kind))).reverse
  directives :=
    ((document.filterMap (·.directive?)).map DeclaredDirective.ofDefinition).reverse
      ++ standardDirectives

namespace Declarations

/-- The names of the types of a document. -/
def typeNames (env : Declarations) : List String := env.types.map (·.1)

/-- The kind of a type of a document. -/
def kind? (env : Declarations) (type : String) : Option TypeKind := env.types.lookup type

/-- A directive by name. -/
def directive? (env : Declarations) (name : String) : Option DeclaredDirective :=
  env.directives.find? (·.name == name)

end Declarations

/-- The required arguments of a directive with their types; of two with the same name the last
one counts, at the place of the first. -/
def DeclaredDirective.required (d : DeclaredDirective) : List (String × String) :=
  let pairs := d.arguments.filterMap (fun (n, t?) => t?.map (n, ·))
  let names := (pairs.map (·.1)).eraseDups
  names.filterMap (fun n => (pairs.reverse.lookup n).map (n, ·))

end OperationHooks
