/-!
# Parts of a text

A text cut at each occurrence of a character: `n` occurrences make `n + 1` parts.
-/

namespace OperationHooks

/-- The parts of a text between the occurrences of a character. -/
def splitAtChar (sep : Char) : List Char → List (List Char)
  | [] => [[]]
  | c :: cs =>
    if c = sep then [] :: splitAtChar sep cs
    else
      match splitAtChar sep cs with
      | [] => [[c]]
      | l :: ls => (c :: l) :: ls

theorem splitAtChar_ne_nil (sep : Char) (cs : List Char) : splitAtChar sep cs ≠ [] := by
  cases cs with
  | nil => simp [splitAtChar]
  | cons c cs =>
    simp only [splitAtChar]
    split
    · simp
    · split <;> simp

/-- A part holds nothing that the text does not hold. -/
theorem mem_of_mem_splitAtChar {sep c : Char} {cs l : List Char} (hl : l ∈ splitAtChar sep cs)
    (hc : c ∈ l) : c ∈ cs := by
  induction cs generalizing l with
  | nil =>
    simp only [splitAtChar, List.mem_singleton] at hl
    exact hl ▸ hc
  | cons d cs ih =>
    simp only [splitAtChar] at hl
    split at hl
    · rcases List.mem_cons.1 hl with rfl | hl
      · simp at hc
      · exact List.mem_cons_of_mem _ (ih hl hc)
    · split at hl
      · rcases List.mem_singleton.1 hl with rfl
        exact List.mem_cons.2 (.inl (List.mem_singleton.1 hc))
      · rename_i first rest heq
        rcases List.mem_cons.1 hl with rfl | hl
        · rcases List.mem_cons.1 hc with rfl | hc
          · exact List.mem_cons_self
          · exact List.mem_cons_of_mem _ (ih (heq ▸ List.mem_cons_self) hc)
        · exact List.mem_cons_of_mem _ (ih (heq ▸ List.mem_cons_of_mem _ hl) hc)

/-- No part holds what parts are cut at. -/
theorem not_mem_of_mem_splitAtChar {sep : Char} {cs l : List Char} (hl : l ∈ splitAtChar sep cs) :
    sep ∉ l := by
  induction cs generalizing l with
  | nil => simp_all [splitAtChar]
  | cons d cs ih =>
    simp only [splitAtChar] at hl
    split at hl
    · rcases List.mem_cons.1 hl with rfl | hl
      · exact List.not_mem_nil
      · exact ih hl
    · rename_i hd
      split at hl
      · rcases List.mem_singleton.1 hl with rfl
        simpa using Ne.symm hd
      · rename_i first rest heq
        rcases List.mem_cons.1 hl with rfl | hl
        · rw [List.mem_cons, not_or]
          exact ⟨Ne.symm hd, ih (heq ▸ List.mem_cons_self)⟩
        · exact ih (heq ▸ List.mem_cons_of_mem _ hl)

end OperationHooks
