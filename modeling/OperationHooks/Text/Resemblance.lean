/-!
# Resemblance

How much of two texts is the same: the longest piece that they share, what is shared before it,
and what is shared behind it. The measure tells which of some names somebody may have meant.
-/

namespace OperationHooks

/-! ### Shared pieces -/

/-- The length of the common beginning of two texts. -/
def sharedStart : List Char → List Char → Nat
  | x :: xs, y :: ys => if x = y then sharedStart xs ys + 1 else 0
  | _, _ => 0

theorem sharedStart_le_length (a b : List Char) : sharedStart a b ≤ a.length := by
  induction a generalizing b with
  | nil => simp [sharedStart]
  | cons x xs ih =>
    cases b with
    | nil => simp [sharedStart]
    | cons y ys =>
      simp only [sharedStart, List.length_cons]
      split
      · exact Nat.succ_le_succ (ih ys)
      · exact Nat.zero_le _

/-- The length of what two texts share from two places on. -/
def sharedAt (a b : List Char) (place : Nat × Nat) : Nat :=
  sharedStart (a.drop place.1) (b.drop place.2)

theorem sharedAt_le (a b : List Char) (place : Nat × Nat) :
    sharedAt a b place ≤ a.length - place.1 := by
  simpa [sharedAt] using sharedStart_le_length (a.drop place.1) (b.drop place.2)

/-- The places at which two texts share the longest piece. Of several the first in the first text
counts, and there the first in the second. -/
def longestShared (a b : List Char) : Nat × Nat :=
  let places := (List.range a.length).flatMap (fun i => (List.range b.length).map (fun j => (i, j)))
  places.foldl (fun best p => if sharedAt a b best < sharedAt a b p then p else best) (0, 0)

/-- The number of characters in the pieces that two texts share. -/
def sharedCount (a b : List Char) : Nat :=
  let place := longestShared a b
  let size := sharedAt a b place
  if _h : 0 < size then
    sharedCount (a.take place.1) (b.take place.2) + size
      + sharedCount (a.drop (place.1 + size)) (b.drop (place.2 + size))
  else 0
termination_by a.length
decreasing_by
  all_goals
    have fits := sharedAt_le a b (longestShared a b)
    have found : 0 < sharedAt a b (longestShared a b) := _h
    simp only [List.length_drop, List.length_take]
    omega

/-! ### Names -/

/-- A known name with what it shares with another one and the number of characters of both. -/
structure Resemblance where
  known : String
  shared : Nat
  total : Nat

namespace Resemblance

/-- What a known name shares with a name. -/
def of (name known : String) : Resemblance :=
  ⟨known, sharedCount known.toList name.toList, known.length + name.length⟩

/-- Whether three in five characters are shared. -/
def isClose (r : Resemblance) : Bool := r.total * 3 ≤ r.shared * 10

/-- Whether a known name shares more than another one; of equals the one later in the alphabet
precedes. -/
def precedes (r s : Resemblance) : Bool :=
  if r.shared * s.total = s.shared * r.total then decide (s.known ≤ r.known)
  else s.shared * r.total < r.shared * s.total

end Resemblance

/-- The known names that share most with a name, three at most. -/
def closeNames (name : String) (known : List String) : List String :=
  let close := (known.map (Resemblance.of name)).filter Resemblance.isClose
  ((close.mergeSort Resemblance.precedes).take 3).map (·.known)

end OperationHooks
