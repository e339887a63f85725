import Mathlib.Data.List.Nodup
import Mathlib.Data.List.Perm.Basic
import Mathlib.Tactic.Common
import OperationHooks.Fragments.Library

/-!
# The order of fragment constants

Every known name is put down once: it is taken up when it is met first, and a name that is taken
up is put down later. So the names in the order of constants are the known names, rearranged.
-/

namespace OperationHooks

namespace FragmentLibrary

variable {lib : FragmentLibrary}

/-- The names that steps are going to put down. -/
def puts (steps : List Step) : List String :=
  steps.filterMap fun
    | .take _ => none
    | .put n => some n

@[simp] lemma puts_nil : puts [] = [] := rfl

@[simp] lemma puts_take (n : String) (rest : List Step) : puts (.take n :: rest) = puts rest := rfl

@[simp] lemma puts_put (n : String) (rest : List Step) :
    puts (.put n :: rest) = n :: puts rest := rfl

@[simp] lemma puts_takes (ns : List String) (rest : List Step) :
    puts (ns.map .take ++ rest) = puts rest := by
  induction ns with
  | nil => rfl
  | cons n ns ih => simpa using ih

lemma put_mem_of_mem_puts {n : String} {steps : List Step} (h : n ∈ puts steps) :
    .put n ∈ steps := by
  obtain ⟨s, hs, heq⟩ := List.mem_filterMap.mp h
  cases s with
  | take k => cases heq
  | put k =>
    cases heq
    exact hs

/-- A name that is taken up is one more to put down. -/
lemma perm_puts_take (down ns : List String) (n : String) (rest : List Step) :
    (down ++ puts (ns.map .take ++ .put n :: rest)).Perm (n :: (down ++ puts rest)) := by
  rw [puts_takes, puts_put]
  exact List.perm_middle

/-! ### One traversal -/

lemma nodup_arrange {taken down : List String} {steps : List Step}
    (hd : (down ++ puts steps).Nodup) (ht : down ++ puts steps ⊆ taken) :
    (lib.arrange taken down steps).Nodup := by
  fun_induction lib.arrange taken down steps with
  | case1 taken down => simpa using hd
  | case2 taken down n rest ih => exact ih (by simpa using hd) (by simpa using ht)
  | case3 taken down n rest hn ih =>
    have fresh : n ∉ down ++ puts rest := fun h => hn.2 (ht (by simpa using h))
    have more := perm_puts_take down (lib.dependencies n) n rest
    refine ih (more.nodup_iff.mpr (List.nodup_cons.mpr ⟨fresh, by simpa using hd⟩)) ?_
    exact List.Subset.trans more.subset (List.cons_subset_cons n (by simpa using ht))
  | case4 taken down n rest hn ih => exact ih (by simpa using hd) (by simpa using ht)

lemma known_of_mem_arrange {taken down : List String} {steps : List Step}
    (hk : ∀ n ∈ down ++ puts steps, n ∈ lib.names) :
    ∀ n ∈ lib.arrange taken down steps, n ∈ lib.names := by
  fun_induction lib.arrange taken down steps with
  | case1 taken down => simpa using hk
  | case2 taken down n rest ih => exact ih (by simpa using hk)
  | case3 taken down n rest hn ih =>
    refine ih fun m hm => ?_
    rcases List.mem_cons.mp ((perm_puts_take _ _ _ _).mem_iff.mp hm) with rfl | hm
    · exact hn.1
    · exact hk m (by simpa using hm)
  | case4 taken down n rest hn ih => exact ih (by simpa using hk)

/-- What is down or going to be put down is down in the end, and so is a known name that is going
to be taken up. -/
lemma mem_arrange {taken down : List String} {steps : List Step}
    (ht : taken ⊆ down ++ puts steps) {n : String}
    (hn : n ∈ down ++ puts steps ∨ .take n ∈ steps ∧ n ∈ lib.names) :
    n ∈ lib.arrange taken down steps := by
  fun_induction lib.arrange taken down steps with
  | case1 taken down => simpa using hn
  | case2 taken down m rest ih => exact ih (by simpa using ht) (by simpa using hn)
  | case3 taken down m rest hm ih =>
    have more := perm_puts_take down (lib.dependencies m) m rest
    refine ih (List.Subset.trans (List.cons_subset_cons m (by simpa using ht)) more.symm.subset) ?_
    rw [more.mem_iff, List.mem_cons]
    rcases hn with hn | ⟨hn, known⟩
    · exact .inl (.inr (by simpa using hn))
    · rcases List.mem_cons.mp hn with heq | hn
      · cases heq
        exact .inl (.inl rfl)
      · exact .inr ⟨by simp [hn], known⟩
  | case4 taken down m rest hm ih =>
    refine ih (by simpa using ht) ?_
    rcases hn with hn | ⟨hn, known⟩
    · exact .inl (by simpa using hn)
    · rcases List.mem_cons.mp hn with heq | hn
      · -- a known name that is passed over is down, or it is going to be put down
        cases heq
        exact .inl (by simpa using ht (not_not.mp fun h => hm ⟨known, h⟩))
      · exact .inr ⟨hn, known⟩

/-! ### The order -/

lemma mem_dependencyOrder {n : String} : n ∈ lib.dependencyOrder ↔ n ∈ lib.names := by
  constructor
  · refine known_of_mem_arrange (fun m hm => ?_) n
    rw [List.nil_append, ← List.append_nil (lib.names.map Step.take), puts_takes] at hm
    simp at hm
  · intro known
    exact mem_arrange (List.nil_subset _) (.inr ⟨List.mem_map.mpr ⟨n, known, rfl⟩, known⟩)

lemma nodup_dependencyOrder (lib : FragmentLibrary) : lib.dependencyOrder.Nodup := by
  have h : puts (lib.names.map Step.take) = [] := by
    simpa using puts_takes lib.names []
  exact nodup_arrange (by simp [h]) (by simp [h])

end FragmentLibrary

end OperationHooks
