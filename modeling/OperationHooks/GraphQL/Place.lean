import OperationHooks.GraphQL.Document
import OperationHooks.GraphQL.Stream

/-!
# Where directives stand

A document keeps no places. But the at signs of a source are those of its directives and of the
names under which directives are declared, in the same order; so the place of a directive, and of
what is written behind its name, is found in the source by counting.
-/

namespace OperationHooks

/-! ### At signs of a document -/

/-- The sum of numbers. -/
def total (counts : List Nat) : Nat := counts.foldr (· + ·) 0

/-- The at signs of a field. -/
def Field.atSigns (f : Field) : Nat := f.directives.length

mutual

/-- The at signs of a selection. -/
def Selection.atSigns : Selection → Nat
  | .leaf f => f.atSigns
  | .within f xs => f.atSigns + Selection.atSignsAll xs
  | .spread _ ds => ds.length
  | .inline _ ds xs => ds.length + Selection.atSignsAll xs

/-- The at signs of selections. -/
def Selection.atSignsAll : List Selection → Nat
  | [] => 0
  | x :: xs => x.atSigns + Selection.atSignsAll xs

end

/-- The at signs of arguments or input fields. -/
def inputAtSigns (inputs : List InputValue) : Nat := total (inputs.map (·.directives.length))

/-- The at signs of a field of a type. -/
def FieldDefinition.atSigns (f : FieldDefinition) : Nat :=
  inputAtSigns f.arguments + f.directives.length

/-- The at signs of what a type is made of. -/
def TypeBody.atSigns : TypeBody → Nat
  | .scalar => 0
  | .object _ fields => total (fields.map (·.atSigns))
  | .interface _ fields => total (fields.map (·.atSigns))
  | .union _ => 0
  | .enum values => total (values.map (·.directives.length))
  | .input fields => inputAtSigns fields

/-- The at signs of a definition. The name of a directive that is declared has one of its own. -/
def Definition.atSigns : Definition → Nat
  | .operation o =>
    total (o.variableDefinitions.map (·.directives.length)) + o.directives.length
      + Selection.atSignsAll o.selections
  | .fragment f => f.directives.length + Selection.atSignsAll f.selections
  | .schema s => s.directives.length
  | .schemaExtension s => s.directives.length
  | .type t => t.directives.length + t.body.atSigns
  | .typeExtension t => t.directives.length + t.body.atSigns
  | .directive d => 1 + inputAtSigns d.arguments + d.directives.length
  | .directiveExtension d => 1 + d.directives.length

/-! ### Tokens of a value -/

mutual

/-- How many tokens a value is written with. -/
def Value.tokenCount : Value → Nat
  | .var _ => 2
  | .number _ => 1
  | .string _ => 1
  | .word _ => 1
  | .list items => 2 + Value.tokenCounts items
  | .object fields => 2 + Value.fieldTokenCounts fields

/-- How many tokens values are written with. -/
def Value.tokenCounts : List Value → Nat
  | [] => 0
  | v :: vs => v.tokenCount + Value.tokenCounts vs

/-- How many tokens named values are written with. -/
def Value.fieldTokenCounts : List (Name × Value) → Nat
  | [] => 0
  | (_, v) :: fs => 2 + v.tokenCount + Value.fieldTokenCounts fs

end

/-! ### Places in a stream -/

namespace Stream

/-- A stream from one of its at signs on. -/
def fromAtSign? : Stream → Nat → Option Stream
  | .more t left rest, n =>
    if t = .mark .at then
      match n with
      | 0 => some (.more t left rest)
      | n + 1 => rest.fromAtSign? n
    else rest.fromAtSign? n
  | _, _ => none

/-- A stream without the tokens in front. -/
def dropTokens : Nat → Stream → Stream
  | n + 1, .more _ _ rest => rest.dropTokens n
  | _, s => s

end Stream

end OperationHooks
