import Mathlib.Data.List.Nodup
import Mathlib.Tactic.Common
import OperationHooks.Fragments.Library

/-!
# Which fragments are sent

The names that spreads reach are defined by chains of known names (`FragmentLibrary.Reaches`);
`transitive` lists exactly these, each once, whatever cycles and unknown names there are. It looks
at the library only where chains lead, so two libraries that agree there give the same list.
-/

namespace OperationHooks

namespace FragmentLibrary

variable {lib : FragmentLibrary} {spreads : List String}

/-! ### Chains -/

/-- A known name at the end of a chain of known names: the first is spread, and each spreads the
next. -/
inductive Reaches (lib : FragmentLibrary) (spreads : List String) : String → Prop where
  | spread {n : String} (hn : n ∈ spreads) (known : n ∈ lib.names) : Reaches lib spreads n
  | step {m n : String} (h : Reaches lib spreads m) (hn : n ∈ lib.dependencies m)
      (known : n ∈ lib.names) : Reaches lib spreads n

/-- A name, known or not, that is spread or that a reached fragment spreads. -/
def Mentions (lib : FragmentLibrary) (spreads : List String) (n : String) : Prop :=
  n ∈ spreads ∨ ∃ m, lib.Reaches spreads m ∧ n ∈ lib.dependencies m

lemma Reaches.known {n : String} (h : lib.Reaches spreads n) : n ∈ lib.names := by
  cases h with
  | spread _ known => exact known
  | step _ _ known => exact known

lemma Reaches.mentions {n : String} (h : lib.Reaches spreads n) : lib.Mentions spreads n := by
  cases h with
  | spread hn _ => exact .inl hn
  | step hm hn _ => exact .inr ⟨_, hm, hn⟩

lemma Mentions.reaches {n : String} (h : lib.Mentions spreads n) (known : n ∈ lib.names) :
    lib.Reaches spreads n := by
  rcases h with hn | ⟨m, hm, hn⟩
  · exact .spread hn known
  · exact .step hm hn known

/-! ### The closure -/

lemma close_take {reached : List String} {n : String} (rest : List String) (known : n ∈ lib.names)
    (fresh : n ∉ reached) :
    lib.close reached (n :: rest) = lib.close (reached ++ [n]) (rest ++ lib.dependencies n) := by
  rw [close, dif_pos ⟨known, fresh⟩]

lemma close_skip {reached : List String} {n : String} (rest : List String)
    (h : ¬(n ∈ lib.names ∧ n ∉ reached)) :
    lib.close reached (n :: rest) = lib.close reached rest := by
  rw [close, dif_neg h]

lemma nodup_close {reached : List String} (pending : List String) (h : reached.Nodup) :
    (lib.close reached pending).Nodup := by
  fun_induction lib.close reached pending with
  | case1 => exact h
  | case2 reached n rest hn ih =>
    refine ih ?_
    rw [List.nodup_append]
    refine ⟨h, List.nodup_singleton n, fun a ha b hb => ?_⟩
    rw [List.mem_singleton] at hb
    rintro rfl
    exact hn.2 (hb ▸ ha)
  | case3 reached n rest hn ih => exact ih h

lemma subset_close (reached pending : List String) : reached ⊆ lib.close reached pending := by
  fun_induction lib.close reached pending with
  | case1 => exact List.Subset.refl _
  | case2 reached n rest hn ih => exact fun m hm => ih (List.mem_append_left _ hm)
  | case3 reached n rest hn ih => exact ih

lemma mem_close_of_mem_pending (reached : List String) {pending : List String} {n : String}
    (hn : n ∈ pending) (known : n ∈ lib.names) : n ∈ lib.close reached pending := by
  fun_induction lib.close reached pending with
  | case1 => simp at hn
  | case2 reached m rest hm ih =>
    rcases List.mem_cons.mp hn with rfl | hn
    · exact subset_close _ _ (by simp)
    · exact ih (List.mem_append_left _ hn)
  | case3 reached m rest hm ih =>
    rcases List.mem_cons.mp hn with rfl | hn
    · -- a known name that is passed over was reached before
      exact subset_close _ _ (not_not.mp fun h => hm ⟨known, h⟩)
    · exact ih hn

/-- What holds of the names at hand and is handed on along spreads holds of the whole closure. -/
lemma forall_mem_close {P : String → Prop} {reached pending : List String}
    (hr : ∀ n ∈ reached, P n) (hp : ∀ n ∈ pending, n ∈ lib.names → P n)
    (step : ∀ m n, P m → n ∈ lib.dependencies m → n ∈ lib.names → P n) :
    ∀ n ∈ lib.close reached pending, P n := by
  fun_induction lib.close reached pending with
  | case1 => exact hr
  | case2 reached m rest hm ih =>
    have hPm : P m := hp m List.mem_cons_self hm.1
    refine ih (fun n hn => ?_) (fun n hn known => ?_)
    · rcases List.mem_append.mp hn with hn | hn
      · exact hr n hn
      · exact List.mem_singleton.mp hn ▸ hPm
    · rcases List.mem_append.mp hn with hn | hn
      · exact hp n (List.mem_cons_of_mem _ hn) known
      · exact step m n hPm hn known
  | case3 reached m rest hm ih =>
    exact ih hr fun n hn => hp n (List.mem_cons_of_mem _ hn)

/-- The closure holds what its members spread, if what the names at hand spread is pending. -/
lemma close_closed {reached pending : List String}
    (h : ∀ m ∈ reached, ∀ n ∈ lib.dependencies m, n ∈ lib.names → n ∈ reached ∨ n ∈ pending) :
    ∀ m ∈ lib.close reached pending, ∀ n ∈ lib.dependencies m, n ∈ lib.names →
      n ∈ lib.close reached pending := by
  fun_induction lib.close reached pending with
  | case1 reached =>
    intro m hm n hn known
    exact (h m hm n hn known).resolve_right (by simp)
  | case2 reached k rest hk ih =>
    refine ih fun m hm n hn known => ?_
    rcases List.mem_append.mp hm with hm | hm
    · rcases h m hm n hn known with hn | hn
      · exact .inl (List.mem_append_left _ hn)
      · rcases List.mem_cons.mp hn with rfl | hn
        · exact .inl (by simp)
        · exact .inr (List.mem_append_left _ hn)
    · rw [List.mem_singleton.mp hm] at hn
      exact .inr (List.mem_append_right _ hn)
  | case3 reached k rest hk ih =>
    refine ih fun m hm n hn known => ?_
    rcases h m hm n hn known with hn | hn
    · exact .inl hn
    · rcases List.mem_cons.mp hn with rfl | hn
      · exact .inl (not_not.mp fun h => hk ⟨known, h⟩)
      · exact .inr hn

/-- The fragments to be sent are those at the ends of chains. -/
lemma mem_transitive_iff {n : String} :
    n ∈ lib.transitive spreads ↔ lib.Reaches spreads n := by
  constructor
  · intro h
    refine forall_mem_close (P := lib.Reaches spreads) (by simp) (fun n hn known => ?_)
      (fun m n hm hn known => ?_) n h
    · exact .spread hn known
    · exact .step hm hn known
  · intro h
    induction h with
    | spread hn known => exact mem_close_of_mem_pending [] hn known
    | step _ hn known ih => exact close_closed (by simp) _ ih _ hn known

lemma nodup_transitive (lib : FragmentLibrary) (spreads : List String) :
    (lib.transitive spreads).Nodup :=
  nodup_close spreads List.nodup_nil

/-! ### Two libraries -/

/-- The closure depends on a library only through the names it meets. -/
lemma close_congr {lib' : FragmentLibrary} {P : String → Prop}
    (known : ∀ n, P n → (n ∈ lib.names ↔ n ∈ lib'.names))
    (same : ∀ n, P n → n ∈ lib.names → lib.dependencies n = lib'.dependencies n)
    (next : ∀ m, P m → m ∈ lib.names → ∀ n ∈ lib.dependencies m, P n)
    {reached pending : List String} (hp : ∀ n ∈ pending, P n) :
    lib.close reached pending = lib'.close reached pending := by
  fun_induction lib.close reached pending with
  | case1 => rw [close]
  | case2 reached m rest hm ih =>
    have hPm : P m := hp m List.mem_cons_self
    rw [ih, close_take rest ((known m hPm).mp hm.1) hm.2, same m hPm hm.1]
    intro n hn
    rcases List.mem_append.mp hn with hn | hn
    · exact hp n (List.mem_cons_of_mem _ hn)
    · exact next m hPm hm.1 n hn
  | case3 reached m rest hm ih =>
    have hPm : P m := hp m List.mem_cons_self
    rw [ih fun n hn => hp n (List.mem_cons_of_mem _ hn),
      close_skip rest fun h => hm ⟨(known m hPm).mpr h.1, h.2⟩]

/-- Libraries that reach the same names, with the same spreads in them, send the same fragments
in the same order. -/
lemma transitive_congr {lib' : FragmentLibrary}
    (reach : ∀ n, lib.Reaches spreads n ↔ lib'.Reaches spreads n)
    (same : ∀ n, lib.Reaches spreads n → lib.dependencies n = lib'.dependencies n) :
    lib.transitive spreads = lib'.transitive spreads := by
  have mentions (n : String) : lib.Mentions spreads n ↔ lib'.Mentions spreads n := by
    refine or_congr_right (exists_congr fun m => ?_)
    rw [← reach m]
    exact and_congr_right fun hm => by rw [same m hm]
  refine close_congr (P := lib.Mentions spreads) (fun n hn => ?_) (fun n hn known => ?_)
    (fun m hm known n hn => ?_) (fun n hn => .inl hn)
  · exact ⟨fun known => ((reach n).mp (hn.reaches known)).known,
      fun known => ((reach n).mpr (((mentions n).mp hn).reaches known)).known⟩
  · exact same n (hn.reaches known)
  · exact .inr ⟨m, hm.reaches known, hn⟩

end FragmentLibrary

end OperationHooks
