import OperationHooks.Text.Shorter

/-!
# Punycode

Text beyond ASCII written in ASCII. The ASCII characters of the text stand in front of the last
hyphen; behind it numbers tell, in ascending order of the other characters, how far it is from one
to the next, counting every place at which a character could be inserted. Numbers are sequences of
digits to base 36 whose end shows by a threshold, and the thresholds follow the numbers seen so far
(`adapt`).
-/

namespace OperationHooks

namespace Punycode

/-! ### Numbers -/

/-- The value of a digit: letters first, then the decimal digits. -/
def digit? (c : Char) : Option Nat :=
  if 'a' ≤ c ∧ c ≤ 'z' then some (c.toNat - 97)
  else if 'A' ≤ c ∧ c ≤ 'Z' then some (c.toNat - 65)
  else if c.isDigit then some (c.toNat - 22)
  else none

/-- The threshold at the digit of weight `36 ^ k`: a smaller digit ends the number. -/
def threshold (k bias : Nat) : Nat := max 1 (min 26 ((k + 1) * 36 - bias))

/-- Numbers and weights stay below this. -/
def bound : Nat := 0x100000000

/-- The number in front, from the digit of weight `36 ^ k` on, and what is behind it. -/
def number? (bias k weight value : Nat) : (cs : List Char) → Option (Nat × Shorter cs)
  | [] => none
  | c :: cs =>
    match digit? c with
    | none => none
    | some d =>
      let value := value + d * weight
      let t := threshold k bias
      if bound ≤ value then none
      else if d < t then some (value, ⟨cs, Nat.lt_succ_self _⟩)
      else if bound ≤ weight * (36 - t) then none
      else
        (number? bias (k + 1) (weight * (36 - t)) value cs).map
          (fun (v, r) => (v, ⟨r.1, Nat.lt_succ_of_lt r.2⟩))

/-- Scales a distance down, counting the steps. -/
def scale (delta steps : Nat) : Nat × Nat :=
  if delta > 455 then scale (delta / 35) (steps + 1) else (delta, steps)
termination_by delta

/-- The bias after a number, by which the thresholds for the next one are set. -/
def adapt (delta length : Nat) (isFirst : Bool) : Nat :=
  let halved := if isFirst then delta / 700 else delta / 2
  let (rest, steps) := scale (halved + halved / length) 0
  steps * 36 + 36 * rest / (rest + 38)

/-! ### Decoding -/

/-- The character with a code point, if there is one. -/
def char? (n : Nat) : Option Char :=
  if h : n.isValidChar then some ⟨n.toUInt32, by
    have : n < 4294967296 := by
      rcases h with h | h <;> omega
    rw [UInt32.isValidChar, Nat.toUInt32, UInt32.toNat_ofNat_of_lt' this]
    exact h⟩
  else none

/-- Inserts the characters that numbers stand for into a text. `code` is the last character
inserted and `place` where the next one may go at the earliest. -/
def insertAll (text : List Char) (code place bias : Nat) (isFirst : Bool) (cs : List Char) :
    Option (List Char) :=
  if cs = [] then some text
  else
    match number? bias 0 1 0 cs with
    | none => none
    | some (delta, rest) =>
      let length := text.length + 1
      let code := code + (place + delta) / length
      let place := (place + delta) % length
      match char? code with
      | none => none
      | some c =>
        insertAll (text.take place ++ c :: text.drop place) code (place + 1)
          (adapt delta length isFirst) false rest.1
termination_by cs.length
decreasing_by exact rest.2

/-- The text that is written, if it is well written: in ASCII. A hyphen at the front parts
nothing. -/
def decode? (written : List Char) : Option (List Char) :=
  let numbers := (written.reverse.takeWhile (· != '-')).reverse
  let basic := written.take (written.length - numbers.length - 1)
  if numbers.length = written.length then insertAll [] 128 0 72 true written
  else if basic = [] || basic.any (fun c => 0x80 ≤ c.toNat) then none
  else insertAll basic 128 0 72 true numbers

end Punycode

end OperationHooks
