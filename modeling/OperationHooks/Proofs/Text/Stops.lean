import Mathlib.Tactic.Common

/-!
# Where characters of a kind end

Scanners take characters as long as they are of a kind. What they take and what they leave is told
by where the text stops going on with such characters.
-/

namespace OperationHooks

/-- A text does not go on with a character of a kind. -/
def Stops (p : Char → Bool) (rest : List Char) : Prop := ∀ c ∈ rest.head?, p c = false

variable {p q : Char → Bool} {rest : List Char}

lemma stops_nil (p : Char → Bool) : Stops p [] := by
  simp [Stops]

lemma stops_cons {c : Char} : Stops p (c :: rest) ↔ p c = false := by
  simp [Stops]

lemma Stops.imp (h : Stops p rest) (hpq : ∀ c, q c = true → p c = true) : Stops q rest := by
  intro c hc
  have hp := h c hc
  cases hq : q c with
  | false => rfl
  | true => exact absurd (hpq c hq) (by simp [hp])

lemma Stops.append {xs : List Char} (hx : Stops p xs) (hr : Stops p rest) :
    Stops p (xs ++ rest) := by
  cases xs with
  | nil => exact hr
  | cons c xs => exact hx

/-- Characters of a kind are taken up to where the text does not go on with one. -/
lemma takeWhile_append_stops {xs : List Char} (hx : ∀ c ∈ xs, p c = true) (hr : Stops p rest) :
    (xs ++ rest).takeWhile p = xs ∧ (xs ++ rest).dropWhile p = rest := by
  rw [List.takeWhile_append_of_pos hx, List.dropWhile_append_of_pos hx]
  cases rest with
  | nil => simp
  | cons c rest => simp [stops_cons.mp hr]

lemma stops_dropWhile (p : Char → Bool) (cs : List Char) : Stops p (cs.dropWhile p) := by
  induction cs with
  | nil => exact stops_nil p
  | cons c cs ih =>
    rw [List.dropWhile_cons]
    split
    · exact ih
    · rename_i h
      exact stops_cons.mpr (by simpa using h)

end OperationHooks
