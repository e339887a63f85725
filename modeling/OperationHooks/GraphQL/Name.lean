import OperationHooks.Text.Escape

/-!
# Names and numbers of GraphQL

The two kinds of lexeme with a spelling rule of their own. A `Name` and a `Number` hold their
spelling together with the rule it obeys, so whatever is built from a document is built from
well-spelled parts.
-/

namespace OperationHooks

/-! ### Names -/

/-- A name starts with an ASCII letter or an underscore. -/
def isNameStart (c : Char) : Bool := c.isAlpha || c == '_'

/-- A name goes on with ASCII letters, digits and underscores. -/
def isNameContinue (c : Char) : Bool := isNameStart c || c.isDigit

/-- A GraphQL name: the name of an operation, a field, a fragment, a type. -/
structure Name where
  head : Char
  tail : List Char
  head_start : isNameStart head = true
  tail_continue : tail.all isNameContinue = true
deriving DecidableEq

namespace Name

/-- The characters of a name, in order. -/
def chars (n : Name) : List Char := n.head :: n.tail

/-- The spelling of a name. -/
def text (n : Name) : String := String.ofList n.chars

theorem chars_ne_nil (n : Name) : n.chars ≠ [] := List.cons_ne_nil _ _

@[simp] theorem toList_text (n : Name) : n.text.toList = n.chars := String.toList_ofList

/-- The name that starts with a given character, as far as it goes, and the text behind it. -/
def scan (c : Char) (h : isNameStart c = true) (cs : List Char) : Name × Shorter (c :: cs) :=
  (⟨c, cs.takeWhile isNameContinue, h, List.all_takeWhile⟩,
    ⟨cs.dropWhile isNameContinue, Nat.lt_succ_of_le (length_dropWhile_le _ cs)⟩)

end Name

/-! ### Numbers -/

/-- One digit or more. -/
structure Digits where
  head : Char
  tail : List Char
  head_digit : head.isDigit = true
  tail_digits : tail.all Char.isDigit = true
deriving DecidableEq

namespace Digits

/-- The digits in order. -/
def chars (d : Digits) : List Char := d.head :: d.tail

/-- The digits that start with a given one, as far as they go, and the text behind them. -/
def scan (c : Char) (h : c.isDigit = true) (cs : List Char) : Digits × Shorter (c :: cs) :=
  (⟨c, cs.takeWhile Char.isDigit, h, List.all_takeWhile⟩,
    ⟨cs.dropWhile Char.isDigit, Nat.lt_succ_of_le (length_dropWhile_le _ cs)⟩)

end Digits

/-- The exponent of a number: its letter, its sign if one is written, its digits. -/
structure Exponent where
  letter : Char
  sign : WrittenSign
  digits : Digits
  letter_e : letter = 'e' ∨ letter = 'E'
deriving DecidableEq

/-- The characters of an exponent. -/
def Exponent.chars (e : Exponent) : List Char := e.letter :: (e.sign.1.toList ++ e.digits.chars)

/-- A number as it is written: the text is kept, its value is never computed. -/
structure Number where
  negative : Bool
  whole : Digits
  fraction : Option Digits
  exponent : Option Exponent
  no_leading_zero : whole.head = '0' → whole.tail = []
deriving DecidableEq

namespace Number

/-- The characters of a number. -/
def chars (n : Number) : List Char :=
  (if n.negative then ['-'] else []) ++ n.whole.chars
    ++ (match n.fraction with | some d => '.' :: d.chars | none => [])
    ++ (match n.exponent with | some e => e.chars | none => [])

/-- The spelling of a number. -/
def text (n : Number) : String := String.ofList n.chars

/-- A number is an integer when it is written without a fraction and without an exponent. -/
def isInteger (n : Number) : Bool := n.fraction.isNone && n.exponent.isNone

end Number

end OperationHooks
