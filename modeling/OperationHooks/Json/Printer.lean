import OperationHooks.Decimal.Shortest
import OperationHooks.Json.Value

/-!
# JSON text

The text of a JSON value on one line: `", "` between items, `": "` behind keys, everything but
quotes, backslashes and control characters as it is. What is torn has no text; its spelling stands
for it.

Every value has such a text, but it is written only if no integer in it is too long: writing has
the limit that reading has, and a fault of its own.
-/

namespace OperationHooks

namespace Json

/-- The hexadecimal digit of a number below sixteen. -/
def hexDigitLower (n : Nat) : Char :=
  if n < 10 then Char.ofNat (48 + n) else Char.ofNat (87 + n)

/-- A character of a JSON string. -/
def escapeChar (c : Char) : List Char :=
  if c = '"' then ['\\', '"']
  else if c = '\\' then ['\\', '\\']
  else if c = '\n' then ['\\', 'n']
  else if c = '\r' then ['\\', 'r']
  else if c = '\t' then ['\\', 't']
  else if c = '\x0c' then ['\\', 'f']
  else if c = '\x08' then ['\\', 'b']
  else if c.toNat < 0x20 then
    ['\\', 'u', '0', '0', hexDigitLower (c.toNat / 16), hexDigitLower (c.toNat % 16)]
  else [c]

/-- A JSON string. -/
def stringText (s : String) : String :=
  "\"" ++ String.ofList (s.toList.flatMap escapeChar) ++ "\""

mutual

/-- The text of a value. -/
def text : Json → String
  | null => "null"
  | bool b => if b then "true" else "false"
  | int n => toString n
  | float x => x.text "NaN" "Infinity"
  | str s => stringText s
  | arr items => "[" ++ ", ".intercalate (texts items) ++ "]"
  | obj members => "\x7b" ++ ", ".intercalate (memberTexts members) ++ "\x7d"
  | torn spelling => spelling

/-- The texts of values. -/
def texts : List Json → List String
  | [] => []
  | v :: vs => v.text :: texts vs

/-- The texts of members. -/
def memberTexts : List (String × Json) → List String
  | [] => []
  | (k, v) :: ms => (stringText k ++ ": " ++ v.text) :: memberTexts ms

end

/-! ### Writing -/

/-- Why a value is not written: an integer in it is too long. -/
inductive WriteFault where
  | longInteger
deriving DecidableEq, Repr

/-- The wording of the fault. -/
def WriteFault.message : WriteFault → String
  | .longInteger => longIntegerMessage ""

/-- A value is written: its text, unless an integer in it is longer than `longest?` allows. -/
def write (longest? : Option Nat) (v : Json) : Except WriteFault String :=
  if v.Fits longest? then .ok v.text else .error .longInteger

end Json

end OperationHooks
