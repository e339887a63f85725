/-!
# Binary numbers of 64 bits

The numbers that a decimal with a point or an exponent stands for, in exact arithmetic: a finite
number is `significand · 2 ^ exponent`. Reading a decimal rounds it to the nearest such number,
and to the one with an even significand where two are equally near.
-/

namespace OperationHooks

/-- A binary number of 64 bits, or one of the values that are no number. -/
inductive Binary64 where
  | notANumber
  | infinite (negative : Bool)
  | finite (negative : Bool) (significand : Nat) (exponent : Int)
deriving DecidableEq, Repr

namespace Binary64

/-- Significands stay below this; normal numbers reach at least half of it. -/
def significandBound : Nat := 0x20000000000000

/-- The exponent of the smallest positive number. -/
def leastExponent : Int := -1074

/-- The exponent of the greatest number. -/
def greatestExponent : Int := 971

/-- A quotient of natural numbers rounded to the nearest, halves to the even neighbour. -/
def roundDiv (num den : Nat) : Nat :=
  let q := num / den
  let r := num % den
  if 2 * r < den then q
  else if den < 2 * r then q + 1
  else if q % 2 = 0 then q else q + 1

/-- The significand of `num / den` at a given exponent, rounded. -/
def significandAt (num den : Nat) (e : Int) : Nat :=
  if e < 0 then roundDiv (num * Nat.pow 2 (-e).toNat) den
  else roundDiv num (den * Nat.pow 2 e.toNat)

/-- The whole part of `num / den / 2 ^ e`. -/
def wholeAt (num den : Nat) (e : Int) : Nat :=
  if e < 0 then num * Nat.pow 2 (-e).toNat / den else num / (den * Nat.pow 2 e.toNat)

/-- The exponent at which `num / den` has a significand of full length, if the estimate is off by
one at most. -/
def adjustExponent (num den : Nat) (e : Int) : Int :=
  if significandBound ≤ wholeAt num den e then e + 1
  else if wholeAt num den e < significandBound / 2 then e - 1
  else e

/-- The number nearest to a positive fraction. -/
def ofFraction (negative : Bool) (num den : Nat) : Binary64 :=
  let estimate : Int := (Nat.log2 num : Int) - (Nat.log2 den : Int) - 52
  let e := max leastExponent (adjustExponent num den estimate)
  let m := significandAt num den e
  let (m, e) := if m = significandBound then (m / 2, e + 1) else (m, e)
  if greatestExponent < e then .infinite negative else .finite negative m e

/-- Zero, with a sign. -/
def zero (negative : Bool) : Binary64 := .finite negative 0 leastExponent

/-- The number nearest to `coefficient · 10 ^ exponent`. Decimals far outside the range are told
by their number of digits, so that no huge power is formed. -/
def ofDecimal (negative : Bool) (coefficient : Nat) (exponent : Int) : Binary64 :=
  if coefficient = 0 then zero negative
  else
    let magnitude := ((Nat.toDigits 10 coefficient).length : Int) + exponent
    if 310 < magnitude then .infinite negative
    else if magnitude < -330 then zero negative
    else if exponent < 0 then ofFraction negative coefficient (Nat.pow 10 (-exponent).toNat)
    else ofFraction negative (coefficient * Nat.pow 10 exponent.toNat) 1

/-- Whether a number is zero, of either sign. -/
def isZero : Binary64 → Bool
  | .finite _ m _ => m == 0
  | _ => false

/-- The whole number that a number is, if it is one. -/
def toInt? : Binary64 → Option Int
  | .finite negative m e =>
    let whole? : Option Nat :=
      if 0 ≤ e then some (m * Nat.pow 2 e.toNat)
      else if m % Nat.pow 2 (-e).toNat = 0 then some (m / Nat.pow 2 (-e).toNat) else none
    whole?.map (fun n => if negative then -(n : Int) else n)
  | _ => none

end Binary64

end OperationHooks
