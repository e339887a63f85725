import OperationHooks.Text.Printable

/-!
# Quoted texts

How messages quote a text: in single quotes, or in double quotes where that saves an escape, with
everything that cannot be seen written as an escape.
-/

namespace OperationHooks

/-- Small hexadecimal digits of a number, at least `width` of them. -/
def hexLower (width n : Nat) : List Char :=
  let digits := Nat.toDigits 16 n
  List.replicate (width - digits.length) '0' ++ digits

/-- A character that cannot be seen, by code point. -/
def escapedChar (c : Char) : List Char :=
  if c = '\t' then ['\\', 't']
  else if c = '\n' then ['\\', 'n']
  else if c = '\r' then ['\\', 'r']
  else if c.toNat ≤ 0xff then '\\' :: 'x' :: hexLower 2 c.toNat
  else if c.toNat ≤ 0xffff then '\\' :: 'u' :: hexLower 4 c.toNat
  else '\\' :: 'U' :: hexLower 8 c.toNat

/-- A character of a text in given quotes. -/
def shownChar (quote c : Char) : List Char :=
  if c = quote ∨ c = '\\' then ['\\', c] else if isPrintable c then [c] else escapedChar c

/-- The quotes of a text: double ones if it holds single ones and no double ones. -/
def quoteFor (text : List Char) : Char :=
  if text.contains '\'' && !text.contains '"' then '"' else '\''

/-- A text in quotes. -/
def quoteText (s : String) : String :=
  let text := s.toList
  let q := quoteFor text
  String.ofList (q :: (text.flatMap (shownChar q) ++ [q]))

end OperationHooks
