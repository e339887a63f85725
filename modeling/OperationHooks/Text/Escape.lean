import OperationHooks.Text.Shorter

/-!
# Escapes and signs

What the notations for strings and numbers in GraphQL and in JSON have in common: characters by
code point, the escapes of one letter, and the sign of an exponent.
-/

namespace OperationHooks

/-! ### Characters -/

/-- The value of a hexadecimal digit. -/
def hexDigit? (c : Char) : Option Nat :=
  if '0' ≤ c ∧ c ≤ '9' then some (c.toNat - 48)
  else if 'A' ≤ c ∧ c ≤ 'F' then some (c.toNat - 55)
  else if 'a' ≤ c ∧ c ≤ 'f' then some (c.toNat - 87)
  else none

/-- The value of four hexadecimal digits. -/
def hexQuad? (a b c d : Char) : Option Nat := do
  return (((← hexDigit? a) * 16 + (← hexDigit? b)) * 16 + (← hexDigit? c)) * 16 + (← hexDigit? d)

/-- The character of a code point, if it has one. -/
def scalar? (n : Nat) : Option Char := if n.isValidChar then some (Char.ofNat n) else none

theorem scalar?_toNat (c : Char) : scalar? c.toNat = some c := by
  have valid : c.toNat.isValidChar := c.valid
  rw [scalar?, if_pos valid, Char.ofNat_toNat]

/-- The character that a leading and a trailing surrogate stand for together. -/
def surrogatePair? (lead trail : Nat) : Option Char :=
  if 0xD800 ≤ lead ∧ lead ≤ 0xDBFF ∧ 0xDC00 ≤ trail ∧ trail ≤ 0xDFFF then
    scalar? (0x10000 + (lead - 0xD800) * 0x400 + (trail - 0xDC00))
  else none

/-- The character behind a backslash, for the escapes of one letter. -/
def simpleEscape? (c : Char) : Option Char :=
  if c = '"' then some '"'
  else if c = '\\' then some '\\'
  else if c = '/' then some '/'
  else if c = 'b' then some '\x08'
  else if c = 'f' then some '\x0c'
  else if c = 'n' then some '\n'
  else if c = 'r' then some '\r'
  else if c = 't' then some '\t'
  else none

/-! ### Signs -/

/-- A sign as it is written, if it is. -/
abbrev WrittenSign : Type := { s : Option Char // s = none ∨ s = some '+' ∨ s = some '-' }

/-- The sign in front of a text, and the text behind it. -/
def scanSign (cs : List Char) : WrittenSign × NoLonger cs :=
  match cs with
  | '+' :: r => (⟨some '+', .inr (.inl rfl)⟩, ⟨r, by simp⟩)
  | '-' :: r => (⟨some '-', .inr (.inr rfl)⟩, ⟨r, by simp⟩)
  | cs => (⟨none, .inl rfl⟩, NoLonger.all cs)

end OperationHooks
