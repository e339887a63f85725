import OperationHooks.Json.Printer

/-!
# Pieces of TypeScript

The literals that generated modules are made of: template literals, and the keys of object
literals.
-/

namespace OperationHooks

namespace TypeScript

/-! ### Template literals -/

/-- A text that stands for itself inside a template literal: a backslash goes before backslashes
and backquotes, and before a dollar sign that would open a substitution. -/
def escapeTemplate : List Char → List Char
  | [] => []
  | c :: r =>
    if c = '\\' ∨ c = '\x60' then '\\' :: c :: escapeTemplate r
    else if c = '$' ∧ r.head? = some '\x7b' then '\\' :: c :: escapeTemplate r
    else c :: escapeTemplate r

/-- A text that stands for itself inside a template literal. -/
def templateText (s : String) : String := String.ofList (escapeTemplate s.toList)

/-! ### Object keys -/

/-- The first character of an identifier, among ASCII characters. -/
def isIdentifierStart (c : Char) : Bool := c.isAlpha || c == '_' || c == '$'

/-- A further character of an identifier, among ASCII characters. -/
def isIdentifierPart (c : Char) : Bool := isIdentifierStart c || c.isDigit

/-- An identifier of ASCII characters. -/
def isIdentifier : List Char → Bool
  | [] => false
  | c :: cs => isIdentifierStart c && cs.all isIdentifierPart

/-- A key that stands without quotes: an identifier, and a line feed behind it does no harm. -/
def isBareKey (cs : List Char) : Bool :=
  isIdentifier cs || (cs.getLast? == some '\n' && isIdentifier cs.dropLast)

/-- The key of an object literal, quoted where it is no identifier. -/
def objectKey (key : String) : String :=
  if isBareKey key.toList then key else Json.stringText key

end TypeScript

end OperationHooks
