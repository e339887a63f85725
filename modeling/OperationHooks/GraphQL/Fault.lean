import OperationHooks.GraphQL.Token

/-!
# Faults of a source

Why a text is no GraphQL document, and where. A place is kept as the number of characters from it
to the end of the source, which a scanner that only sees the rest of the text can tell; lines and
columns are worked out when a fault is reported.
-/

namespace OperationHooks

/-! ### Causes -/

/-- What a reader may insist on. -/
inductive Wanted where
  | mark (p : Punctuator)
  | keyword (word : String)
  | name
deriving DecidableEq

/-- The causes for which a text is refused. `none` stands for the end of the source. -/
inductive Fault where
  | character (c : Char)
  | singleQuote
  | twoDots
  | noWholePart (digits : String)
  | digitAfterZero (c : Char)
  | noDigit (found : Option Char)
  | unterminated
  | unicodeEscape (written : String)
  | characterEscape (written : String)
  | unexpected (found : Option Token)
  | expected (wanted : Wanted) (found : Option Token)
  | constantVariable (name : Name)
  | reservedValue (found : Token)
  | shorthandDescription
  | strayDescription
  | tooDeep
deriving DecidableEq

/-- A fault and the number of characters from its place to the end of the source. -/
structure SourceError where
  fault : Fault
  left : Nat
deriving DecidableEq

/-! ### Wording -/

/-- Capital hexadecimal digits of a number, at least `width` of them. -/
def hexUpper (width n : Nat) : String :=
  let digits := (Nat.toDigits 16 n).map Char.toUpper
  String.ofList (List.replicate (width - digits.length) '0' ++ digits)

/-- A character as messages show it: printable ASCII in single quotes, the rest by code point. -/
def describeChar (c : Char) : String :=
  if ' ' ≤ c ∧ c ≤ '~' then "'" ++ c.toString ++ "'" else "U+" ++ hexUpper 4 c.toNat

/-- The end of a source as messages show it. -/
def endOfSource : String := "<EOF>"

/-- A token as messages show it, or the end of the source. -/
def describeFound : Option Token → String
  | none => endOfSource
  | some t => t.describe

/-- What was insisted on, as messages show it. -/
def Wanted.describe : Wanted → String
  | .mark p => p.describe
  | .keyword w => "'" ++ w ++ "'"
  | .name => "Name"

/-- The wording of a fault. -/
def Fault.message : Fault → String
  | .character c => "Unexpected character: " ++ describeChar c ++ "."
  | .singleQuote =>
    "Unexpected single quote character ('), did you mean to use a double quote (\")?"
  | .twoDots => "Unexpected '..', did you mean '...'?"
  | .noWholePart digits =>
    "Invalid number, expected digit before '.', did you mean '0." ++ digits ++ "'?"
  | .digitAfterZero c => "Invalid number, unexpected digit after 0: " ++ describeChar c ++ "."
  | .noDigit found =>
    "Invalid number, expected digit but got: "
      ++ (match found with | none => endOfSource | some c => describeChar c) ++ "."
  | .unterminated => "Unterminated string."
  | .unicodeEscape written => "Invalid Unicode escape sequence: '" ++ written ++ "'."
  | .characterEscape written => "Invalid character escape sequence: '" ++ written ++ "'."
  | .unexpected found => "Unexpected " ++ describeFound found ++ "."
  | .expected wanted found =>
    "Expected " ++ wanted.describe ++ ", found " ++ describeFound found ++ "."
  | .constantVariable name => "Unexpected variable '$" ++ name.text ++ "' in constant value."
  | .reservedValue found =>
    found.describe ++ " is reserved and cannot be used for an enum value."
  | .shorthandDescription =>
    "Unexpected description, descriptions are not supported on shorthand queries."
  | .strayDescription =>
    "Unexpected description, only GraphQL definitions support descriptions."
  | .tooDeep => "Document is nested too deeply. Parsing aborted."

/-- The wording of a fault as it is reported. -/
def SourceError.message (e : SourceError) : String := "Syntax Error: " ++ e.fault.message

end OperationHooks
