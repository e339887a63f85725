import OperationHooks.Decimal.Shortest
import OperationHooks.Json.Value
import OperationHooks.Text.Quoted

/-!
# Values in messages

How messages show a raw option value. This is not JSON: the constants are capitalized and texts
are quoted as `quoteText` quotes them.
-/

namespace OperationHooks

namespace Json

mutual

/-- A value as messages show it. -/
def display : Json → String
  | null => "None"
  | bool b => if b then "True" else "False"
  | int n => toString n
  | float x => x.text "nan" "inf"
  | str s => quoteText s
  | arr items => "[" ++ ", ".intercalate (displays items) ++ "]"
  | obj members => "\x7b" ++ ", ".intercalate (memberDisplays members) ++ "\x7d"
  | torn spelling => spelling

/-- Values as messages show them. -/
def displays : List Json → List String
  | [] => []
  | v :: vs => v.display :: displays vs

/-- Members as messages show them. -/
def memberDisplays : List (String × Json) → List String
  | [] => []
  | (k, v) :: ms => (quoteText k ++ ": " ++ v.display) :: memberDisplays ms

end

/-- A value as it is shown without quotes: only a text on its own differs from `display`. -/
def plainDisplay : Json → String
  | str s => s
  | v => v.display

end Json

end OperationHooks
