/-!
# Shorter texts

Scanners take something from the front of a text and hand back the rest. That the rest is shorter
stands in their types, and it is why scanning ends.
-/

namespace OperationHooks

/-- What a scanner leaves of a text it has taken something from. -/
abbrev Shorter (cs : List Char) : Type := { r : List Char // r.length < cs.length }

/-- What a scanner leaves of a text it may have taken something from. -/
abbrev NoLonger (cs : List Char) : Type := { r : List Char // r.length ≤ cs.length }

namespace NoLonger

/-- A text of which nothing was taken. -/
def all (cs : List Char) : NoLonger cs := ⟨cs, Nat.le_refl _⟩

/-- What is left if a character is taken as well that stands in front. -/
def behind {cs : List Char} (c : Char) (r : NoLonger cs) : Shorter (c :: cs) :=
  ⟨r.1, Nat.lt_succ_of_le r.2⟩

/-- What is left if something is taken after that. -/
def andThen {cs : List Char} (r : NoLonger cs) (s : Shorter r.1) : Shorter cs :=
  ⟨s.1, Nat.lt_of_lt_of_le s.2 r.2⟩

end NoLonger

namespace Shorter

/-- What is left if a character is taken as well that stands in front. -/
def behind {cs : List Char} (c : Char) (r : Shorter cs) : Shorter (c :: cs) :=
  ⟨r.1, Nat.lt_succ_of_lt r.2⟩

/-- What is left if something is taken after that. -/
def andThen {cs : List Char} (r : Shorter cs) (s : Shorter r.1) : Shorter cs :=
  ⟨s.1, Nat.lt_trans s.2 r.2⟩

/-- Something taken is perhaps something taken. -/
def weaken {cs : List Char} (r : Shorter cs) : NoLonger cs := ⟨r.1, Nat.le_of_lt r.2⟩

end Shorter

theorem length_dropWhile_le (p : Char → Bool) (cs : List Char) :
    (cs.dropWhile p).length ≤ cs.length := (List.dropWhile_sublist p).length_le

end OperationHooks
