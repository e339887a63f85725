import OperationHooks.GraphQL.BlockString
import OperationHooks.GraphQL.Document
import OperationHooks.GraphQL.Fault

/-!
# Printing documents

The canonical text of a definition: two spaces of indentation, one selection a line, arguments and
values broken over lines where one line would be longer than `lineWidth`. Widths are counted over
everything printed so far for the part in question, line feeds included.
-/

namespace OperationHooks

/-! ### Layout -/

/-- The longest line that lists, objects and arguments are kept on. -/
def lineWidth : Nat := 80

/-- Parts one after the other with a separator between them; empty parts are left out. -/
def joinParts (separator : String) (parts : List String) : String :=
  separator.intercalate (parts.filter (· ≠ ""))

/-- A text with something before and behind it, or nothing if the text is empty. -/
def enclose (before text after : String) : String :=
  if text = "" then "" else before ++ text ++ after

/-- A text with every line but the first moved in. -/
def indentRest (by_ : List Char) (text : List Char) : List Char :=
  text.flatMap (fun c => if c = '\n' then c :: by_ else [c])

/-- A text with every line moved in by two spaces, empty lines included. -/
def indent (text : String) : String :=
  if text = "" then "" else "  " ++ String.ofList (indentRest [' ', ' '] text.toList)

/-- Lines in braces, moved in; nothing for no lines. -/
def braces (lines : List String) : String :=
  enclose "\x7b\n" (indent (joinParts "\n" lines)) "\n\x7d"

/-- Whether an item spans several lines. -/
def spansLines (items : List String) : Bool := items.any (·.toList.contains '\n')

/-! ### Strings -/

/-- A character between double quotes: quotes, backslashes and control characters are escaped. -/
def quotedChar (c : Char) : List Char :=
  if c = '"' then ['\\', '"']
  else if c = '\\' then ['\\', '\\']
  else if c = '\x08' then ['\\', 'b']
  else if c = '\t' then ['\\', 't']
  else if c = '\n' then ['\\', 'n']
  else if c = '\x0c' then ['\\', 'f']
  else if c = '\r' then ['\\', 'r']
  else if c.toNat < 0x20 ∨ (0x7f ≤ c.toNat ∧ c.toNat < 0xa0) then
    '\\' :: 'u' :: (hexUpper 4 c.toNat).toList
  else [c]

/-- A string between double quotes. -/
def quoted (value : String) : String :=
  "\"" ++ String.ofList (value.toList.flatMap quotedChar) ++ "\""

/-- A text that may stand between triple quotes. -/
def escapeTriple : List Char → List Char
  | '"' :: '"' :: '"' :: r => '\\' :: '"' :: '"' :: '"' :: escapeTriple r
  | c :: r => c :: escapeTriple r
  | [] => []

/-- Whether a text ends with given characters. -/
def endsIn (text ending : List Char) : Bool := ending.reverse.isPrefixOf text.reverse

/-- A string between triple quotes. It is put on lines of its own if it has several lines, is
longer than seventy characters or ends in a quote or a backslash; a single line that starts with
a blank stays behind the opening quotes, since there the blank is kept. -/
def blockQuoted (value : String) : String :=
  let text := value.toList
  let escaped := escapeTriple text
  let lines := splitLines escaped
  let single := lines.length == 1
  let leading := !single && lines.tail.all (fun l => l.head?.all BlockString.isIndent)
  let apart := !single || value.length > 70 || endsIn text ['"'] || endsIn text ['\\'] || leading
    || endsIn escaped ['\\', '"', '"', '"']
  let staysInLine := single && text.head?.any BlockString.isIndent
  let before := if (apart && !staysInLine) || leading then "\n" else ""
  let after := if apart then "\n" else ""
  "\"\"\"" ++ before ++ String.ofList escaped ++ after ++ "\"\"\""

/-- A string in the quotes it was written in. -/
def StringLiteral.text : StringLiteral → String
  | .quoted value => OperationHooks.quoted value
  | .block value => blockQuoted value.text

/-- A description on lines of its own. -/
def descriptionText : Option StringLiteral → String
  | none => ""
  | some s => s.text ++ "\n"

/-! ### Values and types -/

/-- A list on one line, or with one item a line where that is too long. -/
def layoutList (items : List String) : String :=
  let line := "[" ++ joinParts ", " items ++ "]"
  if line.length > lineWidth then "[\n" ++ indent (joinParts "\n" items) ++ "\n]" else line

/-- An object on one line, or with one field a line where that is too long. -/
def layoutObject (fields : List String) : String :=
  let line := "\x7b " ++ joinParts ", " fields ++ " \x7d"
  if line.length > lineWidth then braces fields else line

mutual

/-- The text of a value. -/
def Value.text : Value → String
  | .var n => "$" ++ n.text
  | .number n => n.text
  | .string s => s.text
  | .word n => n.text
  | .list items => layoutList (Value.texts items)
  | .object fields => layoutObject (Value.fieldTexts fields)

/-- The texts of values. -/
def Value.texts : List Value → List String
  | [] => []
  | v :: vs => v.text :: Value.texts vs

/-- The texts of named values. -/
def Value.fieldTexts : List (Name × Value) → List String
  | [] => []
  | (n, v) :: fs => (n.text ++ ": " ++ v.text) :: Value.fieldTexts fs

end

/-- The text of a type reference. -/
def TypeRef.text : TypeRef → String
  | .named n => n.text
  | .list t => "[" ++ t.text ++ "]"
  | .nonNull t => t.text ++ "!"

/-- The text of a directive; its arguments stay on one line. -/
def Directive.text (d : Directive) : String :=
  "@" ++ d.name.text ++ enclose "(" (joinParts ", " (Value.fieldTexts d.arguments)) ")"

/-- Directives with a space between them. -/
def directivesText (ds : List Directive) : String := joinParts " " (ds.map Directive.text)

/-! ### Operations and fragments -/

/-- A field without its selections: arguments that do not fit go one a line. -/
def Field.text (f : Field) : String :=
  let label := (match f.alias? with | some a => a.text ++ ": " | none => "") ++ f.name.text
  let arguments := Value.fieldTexts f.arguments
  let line := label ++ enclose "(" (joinParts ", " arguments) ")"
  let head :=
    if line.length > lineWidth then
      label ++ enclose "(\n" (indent (joinParts "\n" arguments)) "\n)"
    else line
  joinParts " " [head, directivesText f.directives]

/-- A selection set from the texts of its selections. -/
def selectionSet (selections : List String) : String :=
  if selections.isEmpty then "\x7b\x7d" else braces selections

mutual

/-- The text of a selection. -/
def Selection.text : Selection → String
  | .leaf f => f.text
  | .within f xs => f.text ++ " " ++ selectionSet (Selection.texts xs)
  | .spread n ds => "..." ++ n.text ++ enclose " " (directivesText ds) ""
  | .inline on? ds xs =>
    joinParts " " ["...", (match on? with | some n => "on " ++ n.text | none => ""),
      directivesText ds, selectionSet (Selection.texts xs)]

/-- The texts of selections. -/
def Selection.texts : List Selection → List String
  | [] => []
  | x :: xs => x.text :: Selection.texts xs

end

/-- The value a variable or an argument has when none is given, behind its sign. -/
def defaultText (before : String) : Option Value → String
  | none => ""
  | some v => before ++ v.text

/-- The text of a variable definition. -/
def VariableDefinition.text (v : VariableDefinition) : String :=
  descriptionText v.description ++ "$" ++ v.name.text ++ ": " ++ v.type.text
    ++ defaultText " = " v.default? ++ enclose " " (directivesText v.directives) ""

/-- Definitions in parentheses, on lines of their own if one of them spans several lines. -/
def parenthesized (items : List String) : String :=
  if spansLines items then enclose "(\n" (joinParts "\n" items) "\n)"
  else enclose "(" (joinParts ", " items) ")"

/-- The text of an operation. A query with nothing but selections goes without its word. -/
def Operation.text (o : Operation) : String :=
  let name := match o.name? with | some n => n.text | none => ""
  let declared := parenthesized (o.variableDefinitions.map VariableDefinition.text)
  let head := descriptionText o.description
    ++ joinParts " " [o.kind.keyword, name ++ declared, directivesText o.directives]
  (if head = "query" then "" else head ++ " ") ++ selectionSet (Selection.texts o.selections)

/-- The text of a fragment. -/
def Fragment.text (f : Fragment) : String :=
  descriptionText f.description ++ "fragment " ++ f.name.text ++ " on " ++ f.on.text ++ " "
    ++ enclose "" (directivesText f.directives) " " ++ selectionSet (Selection.texts f.selections)

/-! ### Types of a schema -/

/-- The text of an argument definition. -/
def InputValue.text (v : InputValue) : String :=
  descriptionText v.description
    ++ joinParts " " [v.name.text ++ ": " ++ v.type.text, defaultText "= " v.default?,
      directivesText v.directives]

/-- Argument definitions, moved in where one of them spans several lines. -/
def argumentsText (arguments : List InputValue) : String :=
  let items := arguments.map InputValue.text
  if spansLines items then enclose "(\n" (indent (joinParts "\n" items)) "\n)"
  else enclose "(" (joinParts ", " items) ")"

/-- The text of a field definition. -/
def FieldDefinition.text (f : FieldDefinition) : String :=
  descriptionText f.description ++ f.name.text ++ argumentsText f.arguments ++ ": " ++ f.type.text
    ++ enclose " " (directivesText f.directives) ""

/-- The text of a value of an enumeration. -/
def EnumValue.text (v : EnumValue) : String :=
  descriptionText v.description ++ joinParts " " [v.name.text, directivesText v.directives]

/-- Interfaces behind their word. -/
def interfacesText (interfaces : List Name) : String :=
  enclose "implements " (joinParts " & " (interfaces.map Name.text)) ""

/-- The text of a type without its description, behind `lead`. -/
def TypeDefinition.bodyText (lead : String) (t : TypeDefinition) : String :=
  let name := t.name.text
  let directives := directivesText t.directives
  match t.body with
  | .scalar => joinParts " " [lead ++ "scalar", name, directives]
  | .object is fs =>
    joinParts " " [lead ++ "type", name, interfacesText is, directives,
      braces (fs.map FieldDefinition.text)]
  | .interface is fs =>
    joinParts " " [lead ++ "interface", name, interfacesText is, directives,
      braces (fs.map FieldDefinition.text)]
  | .union ms =>
    joinParts " " [lead ++ "union", name, directives,
      enclose "= " (joinParts " | " (ms.map Name.text)) ""]
  | .enum vs => joinParts " " [lead ++ "enum", name, directives, braces (vs.map EnumValue.text)]
  | .input fs => joinParts " " [lead ++ "input", name, directives, braces (fs.map InputValue.text)]

/-- The text of a schema definition without its description, behind `lead`. -/
def SchemaDefinition.bodyText (lead : String) (s : SchemaDefinition) : String :=
  joinParts " " [lead ++ "schema", directivesText s.directives,
    braces (s.roots.map (fun (k, n) => k.keyword ++ ": " ++ n.text))]

/-- The text of a directive definition. -/
def DirectiveDefinition.text (d : DirectiveDefinition) : String :=
  descriptionText d.description ++ "directive @" ++ d.name.text ++ argumentsText d.arguments
    ++ enclose " " (directivesText d.directives) "" ++ (if d.repeatable then " repeatable" else "")
    ++ " on " ++ joinParts " | " (d.locations.map Name.text)

/-- The text of directives added to the declaration of one. -/
def DirectiveExtension.text (d : DirectiveExtension) : String :=
  joinParts " " ["extend directive @" ++ d.name.text, directivesText d.directives]

/-- The text of a definition. -/
def Definition.text : Definition → String
  | .operation o => o.text
  | .fragment f => f.text
  | .schema s => descriptionText s.description ++ s.bodyText ""
  | .schemaExtension s => s.bodyText "extend "
  | .type t => descriptionText t.description ++ t.bodyText ""
  | .typeExtension t => t.bodyText "extend "
  | .directive d => d.text
  | .directiveExtension d => d.text

end OperationHooks
