import Mathlib.Tactic.Common
import OperationHooks.Text.Split

/-!
# Parts put together

A text that is put together from parts with a character between them is cut into these parts again.
-/

namespace OperationHooks

lemma splitAtChar_append (sep : Char) (xs ys : List Char) :
    splitAtChar sep (xs ++ sep :: ys) = splitAtChar sep xs ++ splitAtChar sep ys := by
  induction xs with
  | nil => simp [splitAtChar]
  | cons x xs ih =>
    rw [List.cons_append, splitAtChar, splitAtChar, ih]
    by_cases h : x = sep
    · simp [h]
    · obtain ⟨l, ls, hl⟩ := List.exists_cons_of_ne_nil (splitAtChar_ne_nil sep xs)
      simp [h, hl]

lemma splitAtChar_of_not_mem {sep : Char} {cs : List Char} (h : sep ∉ cs) :
    splitAtChar sep cs = [cs] := by
  induction cs with
  | nil => rfl
  | cons c cs ih =>
    rw [List.mem_cons, not_or] at h
    rw [splitAtChar, if_neg (Ne.symm h.1), ih h.2]

lemma flatten_splitAtChar (sep : Char) (cs : List Char) :
    (splitAtChar sep cs).flatten = cs.filter (· ≠ sep) := by
  induction cs with
  | nil => rfl
  | cons c cs ih =>
    rw [splitAtChar]
    by_cases h : c = sep
    · simpa [h] using ih
    · obtain ⟨l, ls, hl⟩ := List.exists_cons_of_ne_nil (splitAtChar_ne_nil sep cs)
      rw [hl] at ih
      simpa [h, hl] using ih

end OperationHooks
