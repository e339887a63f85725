import Mathlib.Tactic.Common

/-!
# Joined texts

What a list of texts comes to when they are joined by a separator: the first one, and each of the
others behind a separator.
-/

namespace OperationHooks

/-- Joined texts behind the first one. -/
def joinedBehind (separator : String) (texts : List String) : List Char :=
  texts.flatMap fun t => separator.toList ++ t.toList

lemma joinedBehind_nil (separator : String) : joinedBehind separator [] = [] := rfl

lemma toList_intercalate_cons (separator text : String) (texts : List String) :
    (separator.intercalate (text :: texts)).toList =
      text.toList ++ joinedBehind separator texts := by
  induction texts generalizing text with
  | nil => simp [joinedBehind]
  | cons t texts ih =>
    rw [String.intercalate_cons_cons, String.toList_append, String.toList_append, ih, joinedBehind,
      joinedBehind, List.flatMap_cons, List.append_assoc, List.append_assoc]

lemma joinedBehind_cons (separator text : String) (texts : List String) :
    joinedBehind separator (text :: texts) =
      separator.toList ++ (text.toList ++ joinedBehind separator texts) := by
  rw [joinedBehind, List.flatMap_cons, ← joinedBehind, List.append_assoc]

lemma joinedBehind_comma_cons (text : String) (texts : List String) (rest : List Char) :
    joinedBehind ", " (text :: texts) ++ rest =
      ',' :: ([' '] ++ (text.toList ++ (joinedBehind ", " texts ++ rest))) := by
  rw [joinedBehind_cons, List.append_assoc, List.append_assoc]
  rfl

/-- What is joined can be cut within one of the texts. -/
lemma intercalate_cut (separator x y : String) (before behind : List String) :
    separator.intercalate (before ++ (x ++ y) :: behind) =
      separator.intercalate (before ++ [x]) ++ separator.intercalate (y :: behind) := by
  induction before with
  | nil => cases behind <;> simp [String.append_assoc]
  | cons t before ih =>
    have ne : before ++ (x ++ y) :: behind ≠ [] := by simp
    have ne' : before ++ [x] ≠ [] := by simp
    rw [List.cons_append, List.cons_append, String.intercalate_cons_of_ne_nil ne, ih,
      String.intercalate_cons_of_ne_nil ne']
    simp only [String.append_assoc]

/-- Texts of which each is joined from others are joined as these are. -/
lemma intercalate_flatten (separator : String) {blocks : List (List String)}
    (h : ∀ b ∈ blocks, b ≠ []) :
    separator.intercalate (blocks.map separator.intercalate) =
      separator.intercalate blocks.flatten := by
  induction blocks with
  | nil => rfl
  | cons b blocks ih =>
    have hb : b ≠ [] := h b List.mem_cons_self
    have hs : ∀ b ∈ blocks, b ≠ [] := fun b hb => h b (List.mem_cons_of_mem _ hb)
    cases blocks with
    | nil => simp
    | cons b' blocks =>
      have hf : (b' :: blocks).flatten ≠ [] := by
        simp [hs b' List.mem_cons_self]
      rw [List.map_cons, String.intercalate_cons_of_ne_nil (by simp), ih hs,
        ← String.intercalate_append_of_ne_nil hb hf]
      rfl

end OperationHooks
