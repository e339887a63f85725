import OperationHooks.Url.Ipv4

/-!
# IPv6 addresses

An address has eight pieces of up to four hexadecimal digits with colons between them. Two colons in
a row stand for as many pieces as are missing, once; the last two pieces may be written as an IPv4
address of four decimal numbers.
-/

namespace OperationHooks

namespace Ipv6

/-- Whether a part is a decimal byte without leading zeros. -/
def isByte (part : List Char) : Bool :=
  part ≠ [] && part.all Char.isDigit && (part.length == 1 || part.head? != some '0')
    && (Ipv4.digitsValue? 10 part).any (· ≤ 255)

/-- Whether a text is four decimal bytes with dots between them. -/
def isDottedQuad (text : List Char) : Bool :=
  let parts := splitAtChar '.' text
  parts.length == 4 && parts.all isByte

/-- The hexadecimal digits in front, four at most. -/
def piece (cs : List Char) : List Char := (cs.take 4).takeWhile (Ipv4.hexValue? · |>.isSome)

/-- Whether pieces that stand behind `count` others make an address. `compressed` tells whether
missing pieces were left out before. -/
def pieces (count : Nat) (compressed : Bool) (cs : List Char) : Bool :=
  match cs with
  | [] => compressed || count == 8
  | ':' :: rest => count < 8 && !compressed && pieces (count + 1) true rest
  | c :: cs =>
    let digits := piece (c :: cs)
    if digits = [] ∨ 8 ≤ count then false
    else
      match h : (c :: cs).drop digits.length with
      | [] => compressed || count + 1 == 8
      | '.' :: _ => count ≤ 6 && isDottedQuad (c :: cs) && (compressed || count + 2 == 8)
      | ':' :: next :: rest => pieces (count + 1) compressed (next :: rest)
      | _ => false
termination_by cs.length
decreasing_by
  · simp
  · have := congrArg List.length h
    simp only [List.length_drop, List.length_cons] at this ⊢
    omega

/-- Whether a text is an address. -/
def isAddress : List Char → Bool
  | ':' :: ':' :: rest => pieces 1 true rest
  | ':' :: _ => false
  | cs => pieces 0 false cs

end Ipv6

end OperationHooks
