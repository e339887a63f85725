import OperationHooks.GraphQL.Place
import OperationHooks.Schema.Declarations

/-!
# Remarks of a schema

Two standard directives carry a text: the reason why something is deprecated, and where a scalar is
specified. These texts are read when a schema without faults is put together: first those of
scalars, then those of directives, then those of the fields of types. The values of enumerations
keep theirs unread.

A document may declare the two directives anew. It is then checked against its own declarations,
but the texts are still read by the standard ones; so even here an argument may be missing.
-/

namespace OperationHooks

/-! ### Faults -/

/-- A standard directive with a text. -/
structure Remark where
  directive : String
  argument : String
  hasDefault : Bool

namespace Remark

/-- Why something is deprecated. -/
def deprecation : Remark := ⟨"deprecated", "reason", true⟩

/-- Where a scalar is specified. -/
def specification : Remark := ⟨"specifiedBy", "url", false⟩

/-- The type of the texts. -/
def textType : String := "String!"

end Remark

/-- What is wrong with the text of a remark. -/
inductive RemarkFault where
  | missing
  | null
  | notText (value : Value)

/-- The wording of the fault. -/
def RemarkFault.message (a : Remark) : RemarkFault → String
  | .missing =>
    "Argument '" ++ a.argument ++ "' of required type '" ++ Remark.textType
      ++ "' was not provided."
  | .null =>
    "Argument '" ++ a.argument ++ "' has invalid value: Expected value of non-null type '"
      ++ Remark.textType ++ "' not to be None."
  | .notText value =>
    "Argument '" ++ a.argument
      ++ "' has invalid value: String cannot represent a non string value: " ++ value.text

/-- A place in a definition: so many at signs come before, and so many tokens between the at sign
and the place. -/
structure RemarkPlace where
  atSigns : Nat
  tokens : Nat

/-- A fault of a remark. Lists and objects are refused without their place. -/
structure RemarkError where
  remark : Remark
  fault : RemarkFault
  place? : Option RemarkPlace

namespace Remark

/-! ### Directives -/

/-- An argument by name, with the number of tokens before its value if so many come before its
name. -/
def argument? (name : String) (tokens : Nat) : Arguments → Option (Value × Nat)
  | [] => none
  | (n, v) :: rest =>
    if n.text = name then some (v, tokens + 2)
    else argument? name (tokens + 2 + v.tokenCount) rest

/-- What is wrong with a value that should be a text. -/
def valueFault? : Value → Option RemarkFault
  | .string _ => none
  | .word n => some (if n.text = "null" then .null else .notText (.word n))
  | v => some (.notText v)

/-- Whether a value is made of others. -/
def isCompound : Value → Bool
  | .list _ => true
  | .object _ => true
  | _ => false

/-- What is wrong with a directive behind so many at signs. -/
def directiveError? (a : Remark) (atSigns : Nat) (d : Directive) : Option RemarkError :=
  match argument? a.argument 3 d.arguments with
  | none => if a.hasDefault then none else some ⟨a, .missing, some ⟨atSigns, 0⟩⟩
  | some (value, tokens) =>
    (valueFault? value).map (fun fault =>
      ⟨a, fault, if isCompound value then none else some ⟨atSigns, tokens⟩⟩)

/-- What is wrong with a remark among directives, the first of which stands behind so many at
signs. Of several alike the first counts. -/
def error? (a : Remark) (atSigns : Nat) : List Directive → Option RemarkError
  | [] => none
  | d :: ds =>
    if d.name.text = a.directive then a.directiveError? atSigns d else a.error? (atSigns + 1) ds

/-! ### Definitions -/

/-- The first fault of arguments or input fields behind so many at signs. -/
def inputsError? (atSigns : Nat) : List InputValue → Option RemarkError
  | [] => none
  | v :: vs =>
    (deprecation.error? atSigns v.directives).or
      (inputsError? (atSigns + v.directives.length) vs)

/-- The first fault of fields behind so many at signs. -/
def fieldsError? (atSigns : Nat) : List FieldDefinition → Option RemarkError
  | [] => none
  | f :: fs =>
    ((inputsError? atSigns f.arguments).or
        (deprecation.error? (atSigns + inputAtSigns f.arguments) f.directives)).or
      (fieldsError? (atSigns + f.atSigns) fs)

/-- The first fault of the fields that a type or an extension gives. -/
def typeError? (t : TypeDefinition) : Option RemarkError :=
  match t.body with
  | .object _ fields => fieldsError? t.directives.length fields
  | .interface _ fields => fieldsError? t.directives.length fields
  | .input fields => inputsError? t.directives.length fields
  | _ => none

/-- The fault of a scalar. -/
def scalarError? (t : TypeDefinition) : Option RemarkError :=
  match t.body with
  | .scalar => specification.error? 0 t.directives
  | _ => none

/-- The first fault of the declaration of a directive. -/
def directiveDefinitionError? (d : DirectiveDefinition) : Option RemarkError :=
  (inputsError? 1 d.arguments).or
    (deprecation.error? (1 + inputAtSigns d.arguments) d.directives)

/-- The fault of directives added to the declaration of one. -/
def directiveExtensionError? (d : DirectiveExtension) : Option RemarkError :=
  deprecation.error? 1 d.directives

end Remark

/-! ### Documents -/

/-- Why a schema cannot be put together: a remark of one of its definitions, perhaps one of
the fields of a type. -/
structure AssemblyError where
  fieldsOf? : Option String
  definition : Nat
  error : RemarkError

namespace AssemblyError

/-- The first fault that a test finds in definitions, with the number of the definition. -/
def first? (definitions : List (Definition × Nat)) (fieldsOf? : Option String)
    (error? : Definition → Option RemarkError) : Option AssemblyError :=
  definitions.findSome? (fun (d, i) => (error? d).map (fun e => ⟨fieldsOf?, i, e⟩))

/-- The type that a definition defines, unless it is a standard one, which stays what it is. -/
def ownType? (d : Definition) : Option TypeDefinition :=
  d.type?.filter (fun t => !standardTypes.contains t.name.text)

/-- The fault of a scalar that a definition defines. -/
def ofScalar? (d : Definition) : Option RemarkError :=
  (ownType? d).bind Remark.scalarError?

/-- The first fault of a directive that a definition declares, extensions included. -/
def ofDirective? (definitions : List (Definition × Nat)) :
    Definition × Nat → Option AssemblyError
  | (.directive d, i) =>
    ((Remark.directiveDefinitionError? d).map (fun e => ⟨none, i, e⟩)).or
      (first? definitions none (fun
        | .directiveExtension x =>
          if x.name = d.name then Remark.directiveExtensionError? x else none
        | _ => none))
  | _ => none

/-- The first fault of the fields of a type that a definition defines, extensions included. -/
def ofFields? (definitions : List (Definition × Nat)) (d : Definition) : Option AssemblyError :=
  (ownType? d).bind (fun t =>
    first? definitions (some t.name.text) (fun part =>
      (part.typePart?.filter (·.name = t.name)).bind Remark.typeError?))

/-- The fault for which the schema of a document cannot be put together, if there is one. -/
def of? (document : Document) : Option AssemblyError :=
  let definitions := document.zipIdx
  ((first? definitions none ofScalar?).or
      (definitions.findSome? (ofDirective? definitions))).or
    (definitions.findSome? (fun (d, _) => ofFields? definitions d))

end AssemblyError

end OperationHooks
