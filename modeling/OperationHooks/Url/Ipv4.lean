import OperationHooks.Text.Split

/-!
# IPv4 addresses

An address is one to four numbers with dots between them, the last of which fills all bytes that
are left. Numbers are written to base ten, eight or sixteen. A host whose last part is a number has
to be an address.
-/

namespace OperationHooks

namespace Ipv4

/-- The value of a hexadecimal digit. -/
def hexValue? (c : Char) : Option Nat :=
  if c.isDigit then some (c.toNat - 48)
  else if 'a' ≤ c ∧ c ≤ 'f' then some (c.toNat - 87)
  else if 'A' ≤ c ∧ c ≤ 'F' then some (c.toNat - 55)
  else none

/-- The number that digits spell to a base, if all of them are digits to that base. -/
def digitsValue? (base : Nat) (digits : List Char) : Option Nat :=
  digits.foldl (fun value? c =>
    match value?, hexValue? c with
    | some value, some d => if d < base then some (value * base + d) else none
    | _, _ => none) (some 0)

/-- The number that a part spells: to base sixteen behind `0x`, to base eight behind another zero.
Nothing behind `0x` is zero. -/
def number? : List Char → Option Nat
  | [] => none
  | '0' :: 'x' :: digits => digitsValue? 16 digits
  | '0' :: 'X' :: digits => digitsValue? 16 digits
  | '0' :: d :: digits => digitsValue? 8 (d :: digits)
  | digits => digitsValue? 10 digits

/-- Parts without an empty last one. -/
def trimLast (parts : List (List Char)) : List (List Char) :=
  if parts.getLast? = some [] then parts.dropLast else parts

/-- Whether the last part of a host is a number, or at least looks like one. -/
def endsInNumber (host : List Char) : Bool :=
  match (trimLast (splitAtChar '.' host)).getLast? with
  | none => false
  | some last => (last ≠ [] && last.all Char.isDigit) || (number? last).isSome

/-- Whether numbers make an address: all but the last are bytes, and the last fits into the bytes
that are left. -/
def isAddressOf (numbers : List Nat) : Bool :=
  match numbers.reverse with
  | [] => false
  | last :: others =>
    others.length < 4 && others.all (· ≤ 255) && last < Nat.pow 256 (4 - others.length)

/-- Whether a host is an address. -/
def isAddress (host : List Char) : Bool :=
  match (trimLast (splitAtChar '.' host)).mapM number? with
  | none => false
  | some numbers => isAddressOf numbers

end Ipv4

end OperationHooks
