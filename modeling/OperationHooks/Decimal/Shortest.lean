import OperationHooks.Decimal.Binary64

/-!
# Shortest decimals

The text of a binary number: the fewest digits that read back as the same number, and among those
the digits nearest to it. Of each decimal grid only the two neighbours of the number can be hits,
so one grid after the other is tried.
-/

namespace OperationHooks

namespace Binary64

/-! ### Digits -/

/-- A positive number times `4 / 2 ^ e`, with both ends of the interval of reals that round to it
on the same scale. The interval reaches half way to the neighbours; below a power of two the
neighbour is nearer. -/
structure Interval where
  low : Nat
  mid : Nat
  high : Nat
  exponent : Int
  closed : Bool

/-- The interval of a positive number. -/
def interval (m : Nat) (e : Int) : Interval where
  low := if m = significandBound / 2 ∧ leastExponent < e then 4 * m - 1 else 4 * m - 2
  mid := 4 * m
  high := 4 * m + 2
  exponent := e - 2
  closed := m % 2 = 0

/-- A scaled number as a fraction of multiples of `10 ^ step`. -/
def gridFraction (n : Nat) (exponent step : Int) : Nat × Nat :=
  (n * Nat.pow 2 exponent.toNat * Nat.pow 10 (-step).toNat,
    Nat.pow 2 (-exponent).toNat * Nat.pow 10 step.toNat)

/-- Whether `c · 10 ^ step` lies in an interval. -/
def Interval.contains (i : Interval) (c : Nat) (step : Int) : Bool :=
  let (low, den) := gridFraction i.low i.exponent step
  let (high, _) := gridFraction i.high i.exponent step
  if i.closed then low ≤ c * den && c * den ≤ high else low < c * den && c * den < high

/-- The neighbour on the grid of multiples of `10 ^ step` that reads back, the nearer one if both
do, the even one if both are equally near. -/
def Interval.hit? (i : Interval) (step : Int) : Option Nat :=
  let (num, den) := gridFraction i.mid i.exponent step
  let below := num / den
  let above := below + 1
  match i.contains below step && below ≠ 0, i.contains above step with
  | true, true => some (roundDiv num den)
  | true, false => some below
  | false, true => some above
  | false, false => none

/-- The first hit on ever finer grids, with the step of its grid. -/
def Interval.search (i : Interval) : Nat → Int → Nat × Int
  | 0, step => (i.mid, step)
  | fuel + 1, step =>
    match i.hit? step with
    | some c => (c, step)
    | none => i.search fuel (step - 1)

/-- A power of ten that is not below the number `m · 2 ^ e`; too great an exponent costs a few
grids without a hit. -/
def decimalBound (m : Nat) (e : Int) : Int :=
  ((Nat.log2 m : Int) + 1 + e) * 30103 / 100000 + 1

/-- The digits of a natural number without the zeros at its end, and how many those were. -/
def trimZeros (ds : List Char) : List Char × Nat :=
  let kept := (ds.reverse.dropWhile (· == '0')).reverse
  (kept, ds.length - kept.length)

/-- The shortest digits of a positive number and the place of the point: so many digits in front
of it. -/
def shortest (m : Nat) (e : Int) : List Char × Int :=
  let (c, step) := (interval m e).search 24 (decimalBound m e)
  let ds := Nat.toDigits 10 c
  ((trimZeros ds).1, (ds.length : Int) + step)

/-! ### Notation -/

/-- How numbers are written: between which places of the point without an exponent, and the least
number of digits in an exponent. -/
structure DecimalStyle where
  leastPoint : Int
  greatestPoint : Int
  exponentDigits : Nat

/-- Numbers from 0.0001 up to below 10 ^ 16 are written without an exponent; an exponent has a
sign and two digits at least. -/
def plain : DecimalStyle := ⟨-3, 16, 2⟩

/-- Digits with the point at a place within or around them; there is a digit on both sides. -/
def positional (digits : List Char) (point : Int) : List Char :=
  if point ≤ 0 then '0' :: '.' :: (List.replicate (-point).toNat '0' ++ digits)
  else
    let whole := digits.take point.toNat
    let fraction := digits.drop point.toNat
    whole ++ List.replicate (point.toNat - digits.length) '0'
      ++ '.' :: (if fraction.isEmpty then ['0'] else fraction)

/-- Digits with one in front of the point, and an exponent. -/
def scientific (style : DecimalStyle) (digits : List Char) (point : Int) : List Char :=
  let exponent := point - 1
  let expDigits := Nat.toDigits 10 exponent.natAbs
  digits.take 1 ++ (if digits.length ≤ 1 then [] else '.' :: digits.drop 1)
    ++ 'e' :: (if exponent < 0 then '-' else '+')
    :: (List.replicate (style.exponentDigits - expDigits.length) '0' ++ expDigits)

/-- The text of a finite number. -/
def finiteText (style : DecimalStyle) (negative : Bool) (m : Nat) (e : Int) : String :=
  let body :=
    if m = 0 then ['0', '.', '0']
    else
      let (digits, point) := shortest m e
      if style.leastPoint ≤ point ∧ point ≤ style.greatestPoint then positional digits point
      else scientific style digits point
  String.ofList (if negative then '-' :: body else body)

/-- The text of a number, with given words for what is no finite number. -/
def text (nanWord infinityWord : String) : Binary64 → String
  | .notANumber => nanWord
  | .infinite negative => if negative then "-" ++ infinityWord else infinityWord
  | .finite negative m e => finiteText plain negative m e

end Binary64

end OperationHooks
