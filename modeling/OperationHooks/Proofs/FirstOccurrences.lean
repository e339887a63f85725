import Mathlib.Data.List.Induction
import Mathlib.Data.List.Nodup
import Mathlib.Tactic.Common

/-!
# Lists without repetition

What keeping first occurrences does to a list that grows, and what it means for one member of a
list without repetition to stand before another.
-/

namespace OperationHooks

variable {α : Type} [DecidableEq α]

/-! ### First occurrences -/

lemma eraseDups_concat (xs : List α) (x : α) :
    (xs ++ [x]).eraseDups = xs.eraseDups ++ if x ∈ xs then [] else [x] := by
  rw [List.eraseDups_append]
  by_cases h : x ∈ xs
  · simp [h, List.removeAll]
  · simp [h, List.removeAll, List.eraseDups_cons]

lemma nodup_eraseDups (xs : List α) : xs.eraseDups.Nodup := by
  induction xs using List.reverseRecOn with
  | nil => simp
  | append_singleton xs x ih =>
    rw [eraseDups_concat]
    by_cases h : x ∈ xs
    · simpa [h] using ih
    · rw [if_neg h]
      apply List.nodup_append.mpr
      refine ⟨ih, List.nodup_singleton x, ?_⟩
      intro y hy z hz
      rintro rfl
      exact h (List.mem_singleton.mp hz ▸ List.mem_eraseDups.mp hy)

lemma eraseDups_of_nodup {xs : List α} (h : xs.Nodup) : xs.eraseDups = xs := by
  induction xs using List.reverseRecOn with
  | nil => rfl
  | append_singleton xs x ih =>
    obtain ⟨nodup, -, apart⟩ := List.nodup_append.mp h
    have fresh : x ∉ xs := fun hx => apart x hx x (by simp) rfl
    rw [eraseDups_concat, ih nodup, if_neg fresh]

lemma head?_eraseDups (xs : List α) : xs.eraseDups.head? = xs.head? := by
  cases xs with
  | nil => rfl
  | cons x xs => rw [List.eraseDups_cons, List.head?_cons, List.head?_cons]

lemma eraseDups_append_of_subset {xs ys : List α} (h : ∀ y ∈ ys, y ∈ xs) :
    (xs ++ ys).eraseDups = xs.eraseDups := by
  have nothing : ys.removeAll xs = [] := by
    simpa [List.removeAll, List.filter_eq_nil_iff] using h
  rw [List.eraseDups_append, nothing, List.eraseDups_nil, List.append_nil]

lemma prefix_eraseDups_append (xs ys : List α) : xs.eraseDups <+: (xs ++ ys).eraseDups := by
  rw [List.eraseDups_append]
  exact List.prefix_append _ _

/-- The members of a list, each once, in the order in which they first occur there. -/
structure FirstOccurrences (xs firsts : List α) : Prop where
  nodup : firsts.Nodup
  mem_iff : ∀ x, x ∈ firsts ↔ x ∈ xs
  order : ∀ x ∈ xs, ∀ y ∈ xs, firsts.idxOf x < firsts.idxOf y ↔ xs.idxOf x < xs.idxOf y

lemma idxOf_eraseDups_lt_iff {xs : List α} {x y : α} (hx : x ∈ xs) (hy : y ∈ xs) :
    xs.eraseDups.idxOf x < xs.eraseDups.idxOf y ↔ xs.idxOf x < xs.idxOf y := by
  induction xs using List.reverseRecOn with
  | nil => cases hx
  | append_singleton xs z ih =>
    have old {w : α} (hw : w ∈ xs) :
        (xs ++ [z]).eraseDups.idxOf w = xs.eraseDups.idxOf w ∧
          (xs ++ [z]).idxOf w = xs.idxOf w := by
      rw [eraseDups_concat, List.idxOf_append_of_mem (List.mem_eraseDups.mpr hw),
        List.idxOf_append_of_mem hw]
      exact ⟨rfl, rfl⟩
    have fresh (hz : z ∉ xs) : (xs ++ [z]).eraseDups.idxOf z = xs.eraseDups.length ∧
        (xs ++ [z]).idxOf z = xs.length := by
      rw [eraseDups_concat, if_neg hz, List.idxOf_append_of_notMem (mt List.mem_eraseDups.mp hz),
        List.idxOf_append_of_notMem hz]
      simp
    have known {w : α} (hw : w ∈ xs ++ [z]) : w ∈ xs ∨ w = z ∧ z ∉ xs := by
      rcases List.mem_append.mp hw with hw | hw
      · exact .inl hw
      · obtain rfl := List.mem_singleton.mp hw
        exact (Decidable.em (w ∈ xs)).imp_right fun hz => ⟨rfl, hz⟩
    have inside {w : α} (hw : w ∈ xs) :
        xs.eraseDups.idxOf w < xs.eraseDups.length ∧ xs.idxOf w < xs.length :=
      ⟨List.idxOf_lt_length_iff.mpr (List.mem_eraseDups.mpr hw), List.idxOf_lt_length_iff.mpr hw⟩
    rcases known hx with old_x | ⟨rfl, hz⟩ <;> rcases known hy with old_y | ⟨rfl, hz⟩
    · rw [(old old_x).1, (old old_x).2, (old old_y).1, (old old_y).2]
      exact ih old_x old_y
    · rw [(old old_x).1, (old old_x).2, (fresh hz).1, (fresh hz).2]
      exact iff_of_true (inside old_x).1 (inside old_x).2
    · rw [(old old_y).1, (old old_y).2, (fresh hz).1, (fresh hz).2]
      exact iff_of_false (Nat.lt_asymm (inside old_y).1) (Nat.lt_asymm (inside old_y).2)
    · exact iff_of_false (Nat.lt_irrefl _) (Nat.lt_irrefl _)

lemma firstOccurrences_eraseDups (xs : List α) : FirstOccurrences xs xs.eraseDups :=
  ⟨nodup_eraseDups xs, fun _ => List.mem_eraseDups, fun _ hx _ hy => idxOf_eraseDups_lt_iff hx hy⟩

/-! ### Before and behind -/

omit [DecidableEq α] in
/-- What stands before a member of a beginning belongs to that beginning. -/
lemma mem_of_before {x y : α} {init xs : List α} (unique : xs.Nodup)
    (before : [x, y].Sublist xs) (hinit : init <+: xs) (hy : y ∈ init) : x ∈ init := by
  obtain ⟨rest, rfl⟩ := hinit
  obtain ⟨l, r, heq, hl, hr⟩ := List.sublist_append_iff.mp before
  match l, heq with
  | [], heq =>
    -- both would stand in the rest
    rw [List.nil_append] at heq
    have hy' : y ∈ rest := hr.subset (heq ▸ by simp)
    exact absurd hy' (List.disjoint_of_nodup_append unique hy)
  | z :: l, heq =>
    rw [List.cons_append, List.cons.injEq] at heq
    exact hl.subset (heq.1 ▸ List.mem_cons_self)

end OperationHooks
