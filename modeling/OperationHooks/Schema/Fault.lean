import OperationHooks.GraphQL.Document
import OperationHooks.Text.Suggestion

/-!
# Faults of a schema

What may be wrong with the definitions of a schema, each fault with what its wording names.
-/

namespace OperationHooks

/-- The places at which a directive may stand. -/
inductive DirectivePlace where
  | operation (kind : OperationKind)
  | field
  | fragmentDefinition
  | fragmentSpread
  | inlineFragment
  | variableDefinition
  | schema
  | scalar
  | object
  | fieldDefinition
  | argumentDefinition
  | interface
  | union
  | enum
  | enumValue
  | inputObject
  | inputFieldDefinition
  | directiveDefinition
deriving DecidableEq

/-- The word for a place. -/
def DirectivePlace.word : DirectivePlace → String
  | .operation .query => "QUERY"
  | .operation .mutation => "MUTATION"
  | .operation .subscription => "SUBSCRIPTION"
  | .field => "FIELD"
  | .fragmentDefinition => "FRAGMENT_DEFINITION"
  | .fragmentSpread => "FRAGMENT_SPREAD"
  | .inlineFragment => "INLINE_FRAGMENT"
  | .variableDefinition => "VARIABLE_DEFINITION"
  | .schema => "SCHEMA"
  | .scalar => "SCALAR"
  | .object => "OBJECT"
  | .fieldDefinition => "FIELD_DEFINITION"
  | .argumentDefinition => "ARGUMENT_DEFINITION"
  | .interface => "INTERFACE"
  | .union => "UNION"
  | .enum => "ENUM"
  | .enumValue => "ENUM_VALUE"
  | .inputObject => "INPUT_OBJECT"
  | .inputFieldDefinition => "INPUT_FIELD_DEFINITION"
  | .directiveDefinition => "DIRECTIVE_DEFINITION"

/-- The word for a place as messages show it: in small letters, as several words. -/
def DirectivePlace.words (place : DirectivePlace) : String :=
  String.ofList (place.word.toList.map (fun c => if c = '_' then ' ' else c.toLower))

/-- The kinds of types, as far as an extension has to be of the kind of its type. -/
inductive TypeKind where
  | scalar | object | interface | union | enum | inputObject
deriving DecidableEq

/-- The words for a kind of types. -/
def TypeKind.words : TypeKind → String
  | .scalar => "scalar"
  | .object => "object"
  | .interface => "interface"
  | .union => "union"
  | .enum => "enum"
  | .inputObject => "input object"

/-- The kind of a type. -/
def TypeBody.kind : TypeBody → TypeKind
  | .scalar => .scalar
  | .object _ _ => .object
  | .interface _ _ => .interface
  | .union _ => .union
  | .enum _ => .enum
  | .input _ => .inputObject

/-- What is wrong with a schema. -/
inductive SchemaFault where
  | secondSchema
  | secondRoot (kind : OperationKind)
  | secondType (type : String)
  | secondEnumValue (type value : String)
  | secondField (type field : String)
  | secondArgument (parent argument : String)
  | secondDirective (directive : String)
  | unknownType (type : String) (near : List String)
  | unknownDirective (directive : String)
  | misplacedDirective (directive : String) (place : DirectivePlace)
  | repeatedDirective (directive : String)
  | extensionOfOtherKind (kind : TypeKind) (type : String)
  | extensionOfNothing (type : String) (near : List String)
  | unknownArgument (argument directive : String) (near : List String)
  | repeatedArgument (argument : String)
  | repeatedInputField (field : String)
  | missingArgument (directive argument type : String)
deriving DecidableEq

/-- The wording of the fault. -/
def SchemaFault.message : SchemaFault → String
  | .secondSchema => "Must provide only one schema definition."
  | .secondRoot kind => "There can be only one " ++ kind.keyword ++ " type in schema."
  | .secondType type => "There can be only one type named '" ++ type ++ "'."
  | .secondEnumValue type value =>
    "Enum value '" ++ type ++ "." ++ value ++ "' can only be defined once."
  | .secondField type field => "Field '" ++ type ++ "." ++ field ++ "' can only be defined once."
  | .secondArgument parent argument =>
    "Argument '" ++ parent ++ "(" ++ argument ++ ":)' can only be defined once."
  | .secondDirective directive =>
    "There can be only one directive named '@" ++ directive ++ "'."
  | .unknownType type near => "Unknown type '" ++ type ++ "'." ++ didYouMean near
  | .unknownDirective directive => "Unknown directive '@" ++ directive ++ "'."
  | .misplacedDirective directive place =>
    "Directive '@" ++ directive ++ "' may not be used on " ++ place.words ++ "."
  | .repeatedDirective directive =>
    "The directive '@" ++ directive ++ "' can only be used once at this location."
  | .extensionOfOtherKind kind type =>
    "Cannot extend non-" ++ kind.words ++ " type '" ++ type ++ "'."
  | .extensionOfNothing type near =>
    "Cannot extend type '" ++ type ++ "' because it is not defined." ++ didYouMean near
  | .unknownArgument argument directive near =>
    "Unknown argument '" ++ argument ++ "' on directive '@" ++ directive ++ "'."
      ++ didYouMean near
  | .repeatedArgument argument => "There can be only one argument named '" ++ argument ++ "'."
  | .repeatedInputField field => "There can be only one input field named '" ++ field ++ "'."
  | .missingArgument directive argument type =>
    "Argument '@" ++ directive ++ "(" ++ argument ++ ":)' of type '" ++ type
      ++ "' is required, but it was not provided."

/-- The faults of a schema as one text. -/
def schemaFaultsMessage (faults : List SchemaFault) : String :=
  "\n\n".intercalate (faults.map SchemaFault.message)

end OperationHooks
