import OperationHooks.Text.Split

/-!
# Tables of characters

Classes and maps of characters, kept as rows of text in which code points are written in
hexadecimal digits: `41-5a` is a range, `300-314>e6` a range with a number, `41-5a/1>61` a range
whose members, at a distance of one, go to the characters from `61` on, and `df>53+73` a character
that goes to two.
-/

namespace OperationHooks

/-! ### Rows of text -/

/-- The value of a hexadecimal digit in small letters. -/
def smallHexDigit (c : Char) : Nat :=
  if 'a' ≤ c then c.toNat - 87 else c.toNat - 48

/-- The number that hexadecimal digits spell. -/
def hexNumber (digits : List Char) : Nat := digits.foldl (fun n c => n * 16 + smallHexDigit c) 0

/-- The words of lines, which are separated by spaces. -/
def rowsOf (lines : List String) : List (List Char) :=
  lines.flatMap (fun l => splitAtChar ' ' l.toList)

/-! ### Ranges -/

/-- Characters from one code point to another. -/
structure CharRange where
  first : Nat
  last : Nat

namespace CharRange

/-- The range that a row spells. -/
def read (row : List Char) : CharRange :=
  match splitAtChar '-' row with
  | [a, b] => ⟨hexNumber a, hexNumber b⟩
  | _ => ⟨hexNumber row, hexNumber row⟩

/-- The ranges of a table. -/
def readAll (lines : List String) : List CharRange := (rowsOf lines).map read

/-- Whether a character is in a range. -/
def holds (r : CharRange) (c : Char) : Bool := r.first ≤ c.toNat && c.toNat ≤ r.last

/-- Whether a range of a table holds a character. -/
def covers (table : List CharRange) (c : Char) : Bool := table.any (·.holds c)

/-- The ranges of a table with a number each. -/
def readNumbers (lines : List String) : List (CharRange × Nat) :=
  (rowsOf lines).map (fun row =>
    match splitAtChar '>' row with
    | [range, number] => (read range, hexNumber number)
    | _ => (read row, 0))

/-- The number of the range that holds a character, or zero. -/
def number (table : List (CharRange × Nat)) (c : Char) : Nat :=
  ((table.find? (·.1.holds c)).map (·.2)).getD 0

end CharRange

/-! ### Maps -/

/-- Characters at equal distances that go to characters at the same distances from another. -/
structure CharRun where
  range : CharRange
  step : Nat
  target : Nat

namespace CharRun

/-- The run that a row spells. -/
def read (row : List Char) : CharRun :=
  match splitAtChar '>' row with
  | [left, target] =>
    match splitAtChar '/' left with
    | [range, step] => ⟨CharRange.read range, hexNumber step, hexNumber target⟩
    | _ => ⟨⟨1, 0⟩, 1, 0⟩
  | _ => ⟨⟨1, 0⟩, 1, 0⟩

/-- The runs of a table. -/
def readAll (lines : List String) : List CharRun := (rowsOf lines).map read

/-- The character that a table sends a character to, if it has a row for it. -/
def find? (table : List CharRun) (c : Char) : Option Char :=
  (table.find? (fun r => r.range.holds c && (c.toNat - r.range.first) % r.step == 0)).map
    (fun r => Char.ofNat (r.target + (c.toNat - r.range.first)))

end CharRun

/-- The characters that go to several ones. -/
def readExpansions (lines : List String) : List (Char × List Char) :=
  (rowsOf lines).map (fun row =>
    match splitAtChar '>' row with
    | [c, parts] =>
      (Char.ofNat (hexNumber c), (splitAtChar '+' parts).map (fun p => Char.ofNat (hexNumber p)))
    | _ => ('\x00', []))

end OperationHooks
