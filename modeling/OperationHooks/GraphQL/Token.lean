import OperationHooks.GraphQL.BlockString
import OperationHooks.GraphQL.Name

/-!
# Tokens of GraphQL

What a source is made of once blanks, commas and comments are gone. A token says nothing of where
it stood; the place belongs to the stream (`OperationHooks.GraphQL.Stream`).
-/

namespace OperationHooks

/-- The marks that structure a document. -/
inductive Punctuator where
  | bang | dollar | amp | parenL | parenR | spread | colon | equals | at
  | bracketL | bracketR | braceL | pipe | braceR
deriving DecidableEq, Repr

/-- How a mark is written. -/
def Punctuator.chars : Punctuator → List Char
  | .bang => ['!']
  | .dollar => ['$']
  | .amp => ['&']
  | .parenL => ['(']
  | .parenR => [')']
  | .spread => ['.', '.', '.']
  | .colon => [':']
  | .equals => ['=']
  | .at => ['@']
  | .bracketL => ['[']
  | .bracketR => [']']
  | .braceL => ['\x7b']
  | .pipe => ['|']
  | .braceR => ['\x7d']

/-- The mark that a single character stands for. -/
def Punctuator.ofChar? (c : Char) : Option Punctuator :=
  if c = '!' then some .bang
  else if c = '$' then some .dollar
  else if c = '&' then some .amp
  else if c = '(' then some .parenL
  else if c = ')' then some .parenR
  else if c = ':' then some .colon
  else if c = '=' then some .equals
  else if c = '@' then some .at
  else if c = '[' then some .bracketL
  else if c = ']' then some .bracketR
  else if c = '\x7b' then some .braceL
  else if c = '|' then some .pipe
  else if c = '\x7d' then some .braceR
  else none

/-- A token; strings are kept by value, so two spellings of one string are the same token. -/
inductive Token where
  | mark (p : Punctuator)
  | name (n : Name)
  | number (n : Number)
  | string (value : String)
  | block (value : BlockText)
deriving DecidableEq

namespace Token

/-- The text a token stands for; a mark stands for none. -/
def value? : Token → Option String
  | .mark _ => none
  | .name n => some n.text
  | .number n => some n.text
  | .string s => some s
  | .block s => some s.text

end Token

/-- How a mark is named in a message: in single quotes. -/
def Punctuator.describe (p : Punctuator) : String :=
  "'" ++ String.ofList p.chars ++ "'"

/-- How a token is named in a message: a mark as itself, anything else by kind and text. -/
def Token.describe : Token → String
  | .mark p => p.describe
  | .name n => "Name '" ++ n.text ++ "'"
  | .number n => (if n.isInteger then "Int '" else "Float '") ++ n.text ++ "'"
  | .string s => "String '" ++ s ++ "'"
  | .block s => "BlockString '" ++ s.text ++ "'"

end OperationHooks
