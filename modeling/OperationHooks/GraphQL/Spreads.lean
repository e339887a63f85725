import OperationHooks.GraphQL.Document

/-!
# Fragments spread and variables required

What the rest of the library asks of a definition: the names of the fragments spread anywhere in
it, and whether an operation can do without variables.
-/

namespace OperationHooks

/-! ### Spreads -/

mutual

/-- The fragments spread in a selection, one by one, in the order of the text. -/
def Selection.spreads : Selection → List String
  | .leaf _ => []
  | .within _ xs => Selection.spreadsAll xs
  | .spread n _ => [n.text]
  | .inline _ _ xs => Selection.spreadsAll xs

/-- The fragments spread in selections. -/
def Selection.spreadsAll : List Selection → List String
  | [] => []
  | x :: xs => x.spreads ++ Selection.spreadsAll xs

end

/-- The names of the fragments spread in selections, each once, by first occurrence. -/
def spreadNames (selections : List Selection) : List String :=
  (Selection.spreadsAll selections).eraseDups

/-- The names of the fragments that an operation spreads. -/
def Operation.spreads (o : Operation) : List String := spreadNames o.selections

/-- The names of the fragments that a fragment spreads. -/
def Fragment.spreads (f : Fragment) : List String := spreadNames f.selections

/-- The names of the fragments that a definition spreads; types spread none. -/
def Definition.spreads : Definition → List String
  | .operation o => o.spreads
  | .fragment f => f.spreads
  | _ => []

/-! ### Variables -/

/-- A variable that has to be given: it excludes null and has no default. -/
def VariableDefinition.isRequired (v : VariableDefinition) : Bool :=
  v.type.isNonNull && v.default?.isNone

/-- An operation that cannot do without variables. -/
def Operation.requiresVariables (o : Operation) : Bool := o.variableDefinitions.any (·.isRequired)

end OperationHooks
