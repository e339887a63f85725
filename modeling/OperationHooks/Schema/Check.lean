import OperationHooks.Schema.Declarations

/-!
# Checking a schema

The faults of the definitions of a schema, in the order in which a reader meets them: what a
definition repeats of those before it comes first, then what is found inside it from left to right.
Of a directive the missing arguments come behind what is wrong with those that are there.

Operations and fragments may stand between the definitions. They are checked as well, and to them
the standard types are unknown.
-/

namespace OperationHooks

namespace SchemaCheck

/-! ### Repetitions -/

/-- The items that occurred before: among those seen, or earlier in the list. -/
def repeated {α : Type} [DecidableEq α] (seen : List α) : List α → List α
  | [] => []
  | x :: xs => if x ∈ seen then x :: repeated seen xs else repeated (x :: seen) xs

/-- The items that occur more than once, each reported once. -/
def duplicates {α : Type} [DecidableEq α] (xs : List α) : List α :=
  xs.eraseDups.filter (fun x => xs.count x > 1)

/-! ### Types, values and directives -/

/-- Faults of the name of a type. -/
def typeName (env : Declarations) (inSchema : Bool) (name : Name) : List SchemaFault :=
  let known := env.typeNames.reverse
  let type := name.text
  if known.contains type || (inSchema && standardTypes.contains type) then []
  else [.unknownType type (suggestions type (if inSchema then standardTypes ++ known else known))]

mutual

/-- Faults of a value: object fields that repeat one of the same object. -/
def value : Value → List SchemaFault
  | .list items => values items
  | .object fields => objectFields [] fields
  | _ => []

/-- Faults of values, one after the other. -/
def values : List Value → List SchemaFault
  | [] => []
  | v :: vs => value v ++ values vs

/-- Faults of the fields of an object, some of which were seen. -/
def objectFields (seen : List Name) : List (Name × Value) → List SchemaFault
  | [] => []
  | (n, v) :: fs =>
    (if n ∈ seen then [.repeatedInputField n.text] else []) ++ value v
      ++ objectFields (n :: seen) fs

end

/-- Arguments that are given more than once. -/
def repeatedArguments (arguments : Arguments) : List SchemaFault :=
  (duplicates (arguments.map (·.1))).map (fun n => .repeatedArgument n.text)

/-- Faults inside arguments. -/
def argumentValues (arguments : Arguments) : List SchemaFault := values (arguments.map (·.2))

/-- Faults of a directive at a place. -/
def directive (env : Declarations) (place : DirectivePlace) (d : Directive) :
    List SchemaFault :=
  let name := d.name.text
  match env.directive? name with
  | none => .unknownDirective name :: (repeatedArguments d.arguments ++ argumentValues d.arguments)
  | some declared =>
    let options := declared.arguments.map (·.1)
    let given := d.arguments.map (fun (n, _) => n.text)
    let unknown := given.filter (fun n => !options.contains n)
    let missing := declared.required.filter (fun (n, _) => !given.contains n)
    (if declared.places.contains place.word then [] else [.misplacedDirective name place])
      ++ unknown.map (fun n => .unknownArgument n name (suggestions n options))
      ++ repeatedArguments d.arguments
      ++ argumentValues d.arguments
      ++ missing.map (fun (n, type) => .missingArgument name n type)

/-- Faults of directives at a place. -/
def directives (env : Declarations) (place : DirectivePlace) (ds : List Directive) :
    List SchemaFault :=
  ds.flatMap (directive env place)

/-- The directives among some that may stand only once at a place. -/
def singular (env : Declarations) (ds : List Directive) : List String :=
  (ds.map (·.name.text)).filter (fun n =>
    ((env.directive? n).map (fun d => !d.repeatable)).getD false)

/-- Directives that repeat one of the same place, among those seen there before. -/
def repeatedDirectives (env : Declarations) (seen ds : List Directive) : List SchemaFault :=
  (repeated (singular env seen) (singular env ds)).map .repeatedDirective

/-! ### Parts of types -/

/-- Faults of an argument or an input field. -/
def inputValue (env : Declarations) (place : DirectivePlace) (v : InputValue) :
    List SchemaFault :=
  repeatedDirectives env [] v.directives
    ++ typeName env true v.type.base
    ++ v.default?.toList.flatMap value
    ++ directives env place v.directives

/-- Faults of a field. -/
def fieldDefinition (env : Declarations) (f : FieldDefinition) : List SchemaFault :=
  repeatedDirectives env [] f.directives
    ++ f.arguments.flatMap (inputValue env .argumentDefinition)
    ++ typeName env true f.type.base
    ++ directives env .fieldDefinition f.directives

/-- Faults of a value of an enumeration. -/
def enumValue (env : Declarations) (v : EnumValue) : List SchemaFault :=
  repeatedDirectives env [] v.directives ++ directives env .enumValue v.directives

/-- Arguments of the same name, below a parent that the fault names. -/
def secondArguments (parent : String) (arguments : List InputValue) : List SchemaFault :=
  (duplicates (arguments.map (·.name))).map (fun n => .secondArgument parent n.text)

/-- The fields of a type, those of an input object among them. -/
def fieldNames : TypeBody → List Name
  | .object _ fields => fields.map (·.name)
  | .interface _ fields => fields.map (·.name)
  | .input fields => fields.map (·.name)
  | _ => []

/-- The values of an enumeration. -/
def enumValueNames : TypeBody → List Name
  | .enum values => values.map (·.name)
  | _ => []

/-- The fields of a type that may have arguments. -/
def argumentFields : TypeBody → List FieldDefinition
  | .object _ fields => fields
  | .interface _ fields => fields
  | _ => []

/-- The place at which the directives of a type stand. -/
def placeOfKind : TypeKind → DirectivePlace
  | .scalar => .scalar
  | .object => .object
  | .interface => .interface
  | .union => .union
  | .enum => .enum
  | .inputObject => .inputObject

/-! ### Definitions -/

/-- What a type or an extension repeats of the parts of its type before it, and of itself. -/
def repeatedParts (env : Declarations) (before : List TypeDefinition) (t : TypeDefinition) :
    List SchemaFault :=
  let type := t.name.text
  let earlier := before.filter (·.name = t.name)
  let earlierNames (names : TypeBody → List Name) := earlier.flatMap (fun e => names e.body)
  (repeated (earlierNames enumValueNames) (enumValueNames t.body)).map
      (fun n => .secondEnumValue type n.text)
    ++ (repeated (earlierNames fieldNames) (fieldNames t.body)).map
      (fun n => .secondField type n.text)
    ++ (argumentFields t.body).flatMap
      (fun f => secondArguments (type ++ "." ++ f.name.text) f.arguments)
    ++ repeatedDirectives env (earlier.flatMap (·.directives)) t.directives

/-- Faults inside a type or an extension. -/
def parts (env : Declarations) (t : TypeDefinition) : List SchemaFault :=
  let own := directives env (placeOfKind t.body.kind) t.directives
  match t.body with
  | .scalar => own
  | .object interfaces fields =>
    interfaces.flatMap (typeName env true) ++ own ++ fields.flatMap (fieldDefinition env)
  | .interface interfaces fields =>
    interfaces.flatMap (typeName env true) ++ own ++ fields.flatMap (fieldDefinition env)
  | .union members => own ++ members.flatMap (typeName env true)
  | .enum values => own ++ values.flatMap (enumValue env)
  | .input fields => own ++ fields.flatMap (inputValue env .inputFieldDefinition)

/-- What is wrong with extending a type. -/
def extension (env : Declarations) (t : TypeDefinition) : List SchemaFault :=
  let type := t.name.text
  match env.kind? type with
  | none => [.extensionOfNothing type (suggestions type env.typeNames)]
  | some kind => if kind = t.body.kind then [] else [.extensionOfOtherKind t.body.kind type]

/-- Faults of a schema or an extension of it, after other parts of the schema. -/
def schemaPart (env : Declarations) (before : List SchemaDefinition) (s : SchemaDefinition) :
    List SchemaFault :=
  (repeated (before.flatMap (fun e => e.roots.map (·.1))) (s.roots.map (·.1))).map .secondRoot
    ++ repeatedDirectives env (before.flatMap (·.directives)) s.directives
    ++ directives env .schema s.directives
    ++ s.roots.flatMap (fun r => typeName env true r.2)

/-- Directives that repeat one of the same declaration, among the parts of declarations before. -/
def repeatedMarks (env : Declarations) (before : List DirectiveExtension)
    (d : DirectiveExtension) : List SchemaFault :=
  repeatedDirectives env ((before.filter (·.name = d.name)).flatMap (·.directives)) d.directives

/-- Faults of the declaration of a directive, after other definitions. -/
def directiveDefinition (env : Declarations) (before : Document) (d : DirectiveDefinition) :
    List SchemaFault :=
  secondArguments ("@" ++ d.name.text) d.arguments
    ++ (if ((before.filterMap (·.directive?)).map (·.name)).contains d.name
      then [.secondDirective d.name.text] else [])
    ++ repeatedMarks env (before.filterMap (·.directivePart?)) ⟨d.name, d.directives⟩
    ++ d.arguments.flatMap (inputValue env .argumentDefinition)
    ++ directives env .directiveDefinition d.directives

/-- Faults of directives added to the declaration of one, after other definitions. -/
def directiveExtension (env : Declarations) (before : Document) (d : DirectiveExtension) :
    List SchemaFault :=
  repeatedMarks env (before.filterMap (·.directivePart?)) d
    ++ directives env .directiveDefinition d.directives

/-! ### Operations and fragments -/

/-- Faults of a field without its selections. -/
def field (env : Declarations) (f : Field) : List SchemaFault :=
  repeatedDirectives env [] f.directives ++ repeatedArguments f.arguments
    ++ argumentValues f.arguments ++ directives env .field f.directives

mutual

/-- Faults of a selection. -/
def selection (env : Declarations) : Selection → List SchemaFault
  | .leaf f => field env f
  | .within f inner => field env f ++ selections env inner
  | .spread _ ds => repeatedDirectives env [] ds ++ directives env .fragmentSpread ds
  | .inline on? ds inner =>
    repeatedDirectives env [] ds ++ on?.toList.flatMap (typeName env false)
      ++ directives env .inlineFragment ds ++ selections env inner

/-- Faults of selections, one after the other. -/
def selections (env : Declarations) : List Selection → List SchemaFault
  | [] => []
  | s :: ss => selection env s ++ selections env ss

end

/-- Faults of a variable. -/
def operationVariable (env : Declarations) (v : VariableDefinition) : List SchemaFault :=
  repeatedDirectives env [] v.directives
    ++ typeName env false v.type.base
    ++ v.default?.toList.flatMap value
    ++ directives env .variableDefinition v.directives

/-- Faults of an operation. -/
def operation (env : Declarations) (o : Operation) : List SchemaFault :=
  repeatedDirectives env [] o.directives
    ++ o.variableDefinitions.flatMap (operationVariable env)
    ++ directives env (.operation o.kind) o.directives
    ++ selections env o.selections

/-- Faults of a fragment. -/
def fragment (env : Declarations) (f : Fragment) : List SchemaFault :=
  repeatedDirectives env [] f.directives
    ++ typeName env false f.on
    ++ directives env .fragmentDefinition f.directives
    ++ selections env f.selections

/-! ### Documents -/

/-- Faults of a definition after others. -/
def definition (env : Declarations) (before : Document) : Definition → List SchemaFault
  | .operation o => operation env o
  | .fragment f => fragment env f
  | .schema s =>
    (if (before.filterMap (·.schema?)).isEmpty then [] else [.secondSchema])
      ++ schemaPart env (before.filterMap (·.schemaPart?)) s
  | .schemaExtension s => schemaPart env (before.filterMap (·.schemaPart?)) s
  | .type t =>
    (if ((before.filterMap (·.type?)).map (·.name)).contains t.name
      then [.secondType t.name.text] else [])
      ++ repeatedParts env (before.filterMap (·.typePart?)) t
      ++ parts env t
  | .typeExtension t =>
    repeatedParts env (before.filterMap (·.typePart?)) t
      ++ extension env t
      ++ parts env t
  | .directive d => directiveDefinition env before d
  | .directiveExtension d => directiveExtension env before d

/-- Faults of definitions after others. -/
def definitions (env : Declarations) (before : Document) : Document → List SchemaFault
  | [] => []
  | d :: ds => definition env before d ++ definitions env (before ++ [d]) ds

end SchemaCheck

/-- The faults of a schema. -/
def schemaFaults (document : Document) : List SchemaFault :=
  SchemaCheck.definitions (.of document) [] document

end OperationHooks
