import Mathlib.Order.Lattice.Nat
import OperationHooks.Proofs.FirstOccurrences
import OperationHooks.Proofs.Fragments.Reach

/-!
# The order in which fragments are sent

The names that spreads reach are sent level by level: first those that are spread, by first
occurrence, then what these spread, and so on. This rests on one equation (`transitive_eq`): the
closure is what is known, each name once, of the given names followed by what its own members
spread.
-/

namespace OperationHooks

namespace FragmentLibrary

variable {lib : FragmentLibrary} {spreads : List String}

/-! ### Lengths of chains -/

/-- A known name at the end of a chain of known names with a number of steps: the first is spread,
and each spreads the next. -/
inductive ReachesIn (lib : FragmentLibrary) (spreads : List String) : Nat → String → Prop where
  | spread {n : String} (hn : n ∈ spreads) (known : n ∈ lib.names) : ReachesIn lib spreads 0 n
  | step {k : Nat} {m n : String} (h : ReachesIn lib spreads k m) (hn : n ∈ lib.dependencies m)
      (known : n ∈ lib.names) : ReachesIn lib spreads (k + 1) n

/-- The length of the shortest chain to a name. -/
noncomputable def distance (lib : FragmentLibrary) (spreads : List String) (n : String) : Nat :=
  sInf {k | lib.ReachesIn spreads k n}

lemma reaches_iff_reachesIn {n : String} :
    lib.Reaches spreads n ↔ ∃ k, lib.ReachesIn spreads k n := by
  constructor
  · intro h
    induction h with
    | spread hn known => exact ⟨0, .spread hn known⟩
    | step _ hn known ih =>
      obtain ⟨k, hk⟩ := ih
      exact ⟨k + 1, hk.step hn known⟩
  · rintro ⟨k, h⟩
    induction h with
    | spread hn known => exact .spread hn known
    | step _ hn known ih => exact ih.step hn known

lemma Reaches.reachesIn_distance {n : String} (h : lib.Reaches spreads n) :
    lib.ReachesIn spreads (lib.distance spreads n) n :=
  Nat.sInf_mem (reaches_iff_reachesIn.mp h)

lemma ReachesIn.distance_le {k : Nat} {n : String} (h : lib.ReachesIn spreads k n) :
    lib.distance spreads n ≤ k :=
  Nat.sInf_le h

/-! ### The closure as first occurrences -/

/-- The known ones among names, each once, by first occurrence. -/
def knownOnce (lib : FragmentLibrary) (ns : List String) : List String :=
  (ns.filter (· ∈ lib.names)).eraseDups

lemma mem_knownOnce {ns : List String} {n : String} :
    n ∈ lib.knownOnce ns ↔ n ∈ ns ∧ n ∈ lib.names := by
  simp [knownOnce]

lemma prefix_knownOnce_append (ns ms : List String) :
    lib.knownOnce ns <+: lib.knownOnce (ns ++ ms) := by
  rw [knownOnce, knownOnce, List.filter_append]
  exact prefix_eraseDups_append _ _

lemma knownOnce_concat_of_fresh {ns : List String} {n : String} (known : n ∈ lib.names)
    (fresh : n ∉ lib.knownOnce ns) : lib.knownOnce (ns ++ [n]) = lib.knownOnce ns ++ [n] := by
  rw [knownOnce, List.mem_eraseDups] at fresh
  rw [knownOnce, List.filter_append, List.filter_singleton, decide_eq_true known, cond_true,
    eraseDups_concat, if_neg fresh, knownOnce]

lemma knownOnce_concat_of_passed {ns : List String} {n : String}
    (passed : ¬(n ∈ lib.names ∧ n ∉ lib.knownOnce ns)) :
    lib.knownOnce (ns ++ [n]) = lib.knownOnce ns := by
  rw [knownOnce, List.filter_append, knownOnce]
  refine eraseDups_append_of_subset fun m hm => ?_
  obtain ⟨hm, known⟩ := List.mem_filter.mp hm
  rw [List.mem_singleton.mp hm] at known ⊢
  have reached := not_not.mp fun h => passed ⟨of_decide_eq_true known, h⟩
  rwa [knownOnce, List.mem_eraseDups] at reached

/-- If the names at hand are those met in the part of the queue that is done, and the queue is made
of the given names and of what the names at hand spread, then that is so in the end. -/
lemma close_eq (queue : List String) {reached pending : List String}
    (met : reached = lib.knownOnce queue)
    (hq : queue ++ pending = spreads ++ reached.flatMap lib.dependencies) :
    lib.close reached pending =
      lib.knownOnce (spreads ++ (lib.close reached pending).flatMap lib.dependencies) := by
  fun_induction lib.close reached pending generalizing queue with
  | case1 reached => rwa [← hq, List.append_nil]
  | case2 reached n rest hn ih =>
    -- what `n` spreads goes to the end of the queue as `n` goes to the end of what is reached
    refine ih (queue ++ [n]) ?_ ?_
    · rw [knownOnce_concat_of_fresh hn.1 (met ▸ hn.2), ← met]
    · rw [List.flatMap_append, ← List.append_assoc spreads, ← hq]
      simp
  | case3 reached n rest hn ih =>
    refine ih (queue ++ [n]) ?_ ?_
    · rw [knownOnce_concat_of_passed (met ▸ hn), met]
    · rw [← hq]
      simp

/-- What is sent is what is known, each name once, of the given names followed by what the names
sent spread. -/
lemma transitive_eq (lib : FragmentLibrary) (spreads : List String) :
    lib.transitive spreads =
      lib.knownOnce (spreads ++ (lib.transitive spreads).flatMap lib.dependencies) :=
  close_eq [] rfl (by simp)

/-- What is met by the time a beginning of the closure has been looked at is sent first. -/
lemma knownOnce_prefix_transitive {init : List String} (h : init <+: lib.transitive spreads) :
    lib.knownOnce (spreads ++ init.flatMap lib.dependencies) <+: lib.transitive spreads := by
  obtain ⟨rest, h⟩ := h
  rw [transitive_eq, ← h, List.flatMap_append, ← List.append_assoc]
  exact prefix_knownOnce_append _ _

/-! ### Levels -/

/-- What is sent before a name is met before that name. -/
lemma met_of_before {init : List String} (h : init <+: lib.transitive spreads) {x n : String}
    (before : [x, n].Sublist (lib.transitive spreads))
    (met : n ∈ spreads ++ init.flatMap lib.dependencies) (known : n ∈ lib.names) :
    x ∈ spreads ++ init.flatMap lib.dependencies ∧ x ∈ lib.names :=
  mem_knownOnce.mp (mem_of_before (nodup_transitive lib spreads) before
    (knownOnce_prefix_transitive h) (mem_knownOnce.mpr ⟨met, known⟩))

/-- No name that is sent before another one takes a longer chain. -/
lemma ReachesIn.le_of_before {k : Nat} {n : String} (h : lib.ReachesIn spreads k n) {x : String}
    (before : [x, n].Sublist (lib.transitive spreads)) :
    ∃ j ≤ k, lib.ReachesIn spreads j x := by
  induction h generalizing x with
  | spread hn known =>
    have init : [] <+: lib.transitive spreads := List.nil_prefix
    obtain ⟨hx, known⟩ := met_of_before init before (List.mem_append_left _ hn) known
    exact ⟨0, le_rfl, .spread (by simpa using hx) known⟩
  | @step k m n h hn known ih =>
    -- `n` is met at the latest among the names that `m` spreads
    obtain ⟨front, back, split⟩ := List.append_of_mem
      (mem_transitive_iff.mpr (reaches_iff_reachesIn.mpr ⟨k, h⟩))
    have init : front ++ [m] <+: lib.transitive spreads := ⟨back, by simp [split]⟩
    have met : n ∈ (front ++ [m]).flatMap lib.dependencies :=
      List.mem_flatMap.mpr ⟨m, by simp, hn⟩
    obtain ⟨hx, known⟩ := met_of_before init before (List.mem_append_right _ met) known
    rcases List.mem_append.mp hx with hx | hx
    · exact ⟨0, Nat.zero_le _, .spread hx known⟩
    · obtain ⟨m', hm', hx⟩ := List.mem_flatMap.mp hx
      rcases List.mem_append.mp hm' with hm' | hm'
      · have earlier : [m', m].Sublist (lib.transitive spreads) := by
          rw [split]
          exact (List.singleton_sublist.mpr hm').append (by simp)
        obtain ⟨j, hj, hj'⟩ := ih earlier
        exact ⟨j + 1, by omega, hj'.step hx known⟩
      · rw [List.mem_singleton] at hm'
        exact ⟨k + 1, le_rfl, h.step (hm' ▸ hx) known⟩

/-- What is sent for spreads, on any graph of fragments: each name once, exactly the known names at
the ends of chains, in nondecreasing order of their shortest chains. So the known ones among the
spreads come first, by first occurrence. -/
theorem transitive_by_levels (lib : FragmentLibrary) (spreads : List String) :
    (lib.transitive spreads).Nodup ∧
      (∀ n, n ∈ lib.transitive spreads ↔ ∃ k, lib.ReachesIn spreads k n) ∧
      (lib.transitive spreads).Pairwise
        (fun m n => lib.distance spreads m ≤ lib.distance spreads n) ∧
      lib.knownOnce spreads <+: lib.transitive spreads := by
  refine ⟨nodup_transitive lib spreads, fun n => ?_, ?_, ?_⟩
  · rw [mem_transitive_iff, reaches_iff_reachesIn]
  · refine List.pairwise_iff_forall_sublist.mpr fun {m n} before => ?_
    have reached : lib.Reaches spreads n := mem_transitive_iff.mp (before.subset (by simp))
    obtain ⟨j, hj, hm⟩ := reached.reachesIn_distance.le_of_before before
    exact hm.distance_le.trans hj
  · have init : [] <+: lib.transitive spreads := List.nil_prefix
    simpa using knownOnce_prefix_transitive init

end FragmentLibrary

end OperationHooks
