import Mathlib.Data.List.Nodup
import Mathlib.Tactic.Common
import OperationHooks.Json.Value
import OperationHooks.Proofs.FirstOccurrences

/-!
# Members in order

Members that are put in one after the other keep the order of their first occurrences. So members
with different keys stay as they are, and one that is put in before them keeps its place and takes
the value that they give it.
-/

namespace OperationHooks

variable {α : Type} {key : String} {value : α} {ms : List (String × α)}

lemma insertMember_of_not_mem (h : key ∉ ms.map (·.1)) :
    insertMember key value ms = ms ++ [(key, value)] := by
  induction ms with
  | nil => rfl
  | cons m ms ih =>
    rw [List.map_cons, List.mem_cons, not_or] at h
    rw [insertMember, if_neg (Ne.symm h.1), ih h.2, List.cons_append]

lemma insertMember_cons_self {value' : α} :
    insertMember key value ((key, value') :: ms) = (key, value) :: ms := by
  rw [insertMember, if_pos rfl]

/-- Members with new keys, each different from the others, go behind those that are there. -/
lemma foldl_insertMember (before : List (String × α))
    (distinct : ((before ++ ms).map (·.1)).Nodup) :
    ms.foldl (fun ms (k, v) => insertMember k v ms) before = before ++ ms := by
  induction ms generalizing before with
  | nil => simp
  | cons m ms ih =>
    obtain ⟨k, v⟩ := m
    have fresh : k ∉ before.map (·.1) := by
      rw [List.map_append, List.nodup_append'] at distinct
      exact fun h => distinct.2.2 h (by simp)
    have rest := ih (before ++ [(k, v)]) (by simpa using distinct)
    rw [List.foldl_cons]
    dsimp only
    rw [insertMember_of_not_mem fresh, rest, List.append_assoc, List.singleton_append]

lemma collectMembers_of_nodup (distinct : (ms.map (·.1)).Nodup) : collectMembers ms = ms :=
  foldl_insertMember [] distinct

lemma lookupMember_of_not_mem (h : key ∉ ms.map (·.1)) : lookupMember key ms = none := by
  induction ms with
  | nil => rfl
  | cons m ms ih =>
    rw [List.map_cons, List.mem_cons, not_or] at h
    rw [lookupMember, if_neg (Ne.symm h.1), ih h.2]

lemma mem_of_lookupMember (h : lookupMember key ms = some value) : (key, value) ∈ ms := by
  induction ms with
  | nil => cases h
  | cons m ms ih =>
    obtain ⟨k, v⟩ := m
    rw [lookupMember] at h
    split at h
    · next same =>
      cases h
      exact same ▸ List.mem_cons_self
    · exact List.mem_cons_of_mem _ (ih h)

lemma mem_of_mem_insertMember {m : String × α} (h : m ∈ insertMember key value ms) :
    m = (key, value) ∨ m ∈ ms := by
  induction ms with
  | nil => exact .inl (List.mem_singleton.mp h)
  | cons m' ms ih =>
    obtain ⟨k, v⟩ := m'
    rw [insertMember] at h
    split_ifs at h
    · rcases List.mem_cons.mp h with h | h
      · exact .inl h
      · exact .inr (List.mem_cons_of_mem _ h)
    · rcases List.mem_cons.mp h with h | h
      · exact .inr (h ▸ List.mem_cons_self)
      · exact (ih h).imp_right (List.mem_cons_of_mem _)

lemma lookupMember_append_cons {before after : List (String × α)} (h : key ∉ before.map (·.1)) :
    lookupMember key (before ++ (key, value) :: after) = some value := by
  induction before with
  | nil => simp [lookupMember]
  | cons m before ih =>
    rw [List.map_cons, List.mem_cons, not_or] at h
    rw [List.cons_append, lookupMember, if_neg (Ne.symm h.1), ih h.2]

lemma filter_of_not_mem (h : key ∉ ms.map (·.1)) : ms.filter (·.1 ≠ key) = ms := by
  apply List.filter_eq_self.mpr
  intro m hm
  simpa using ne_of_mem_of_not_mem (List.mem_map_of_mem hm) h

/-- A member that is put in first keeps its place, and the last value is its value. -/
lemma collectMembers_cons (distinct : (ms.map (·.1)).Nodup) :
    collectMembers ((key, value) :: ms) =
      (key, (lookupMember key ms).getD value) :: ms.filter (·.1 ≠ key) := by
  by_cases h : key ∈ ms.map (·.1)
  · -- the members before the key go behind the first one, which then takes the value of the key
    obtain ⟨⟨k, v⟩, hm, rfl⟩ := List.mem_map.mp h
    obtain ⟨before, after, rfl⟩ := List.append_of_mem hm
    simp only [List.map_append, List.map_cons, List.nodup_append', List.nodup_cons,
      List.disjoint_cons_right] at distinct
    obtain ⟨nodup, ⟨notAfter, nodup'⟩, notBefore, apart⟩ := distinct
    have front : ((((k, value) :: before).map (·.1))).Nodup := List.nodup_cons.mpr ⟨notBefore, nodup⟩
    have all : ((((k, v) :: before) ++ after).map (·.1)).Nodup := by
      rw [List.cons_append, List.map_cons, List.map_append, List.nodup_cons, List.nodup_append']
      exact ⟨by simp only [List.mem_append, notBefore, notAfter, or_self, not_false_eq_true],
        nodup, nodup', apart⟩
    have folded := foldl_insertMember [(k, value)] front
    rw [lookupMember_append_cons notBefore, List.filter_append, filter_of_not_mem notBefore,
      List.filter_cons_of_neg (by simp), filter_of_not_mem notAfter, collectMembers,
      List.foldl_cons, List.foldl_append]
    dsimp only [insertMember]
    rw [folded, List.foldl_cons]
    dsimp only
    rw [List.singleton_append, insertMember_cons_self, foldl_insertMember _ all]
    rfl
  · have whole : ((((key, value) :: ms).map (·.1))).Nodup := List.nodup_cons.mpr ⟨h, distinct⟩
    rw [collectMembers_of_nodup whole, lookupMember_of_not_mem h, filter_of_not_mem h,
      Option.getD_none]

/-! ### All members -/

lemma keys_insertMember (key : String) (value : α) (ms : List (String × α)) :
    (insertMember key value ms).map (·.1) =
      ms.map (·.1) ++ if key ∈ ms.map (·.1) then [] else [key] := by
  induction ms with
  | nil => rfl
  | cons m ms ih =>
    obtain ⟨k, v⟩ := m
    rw [insertMember]
    by_cases same : k = key
    · simp [same]
    · have mem : key ∈ ((k, v) :: ms).map (·.1) ↔ key ∈ ms.map (·.1) := by
        rw [List.map_cons, List.mem_cons, or_iff_right (Ne.symm same)]
      rw [if_neg same, List.map_cons, ih, if_congr mem rfl rfl]
      rfl

lemma lookupMember_insertMember (key key' : String) (value : α) (ms : List (String × α)) :
    lookupMember key (insertMember key' value ms) =
      if key' = key then some value else lookupMember key ms := by
  induction ms with
  | nil => rfl
  | cons m ms ih =>
    obtain ⟨k, v⟩ := m
    rw [insertMember]
    by_cases here : k = key'
    · subst here
      rw [if_pos rfl, lookupMember, lookupMember]
      split <;> rfl
    · rw [if_neg here, lookupMember, lookupMember, ih]
      by_cases same : key' = key
      · rw [if_neg fun h => here (h.trans same.symm), if_pos same, if_pos same]
      · rw [if_neg same, if_neg same]

lemma collectMembers_concat (pairs : List (String × α)) (pair : String × α) :
    collectMembers (pairs ++ [pair]) = insertMember pair.1 pair.2 (collectMembers pairs) := by
  rw [collectMembers, List.foldl_append]
  rfl

/-- Nothing is collected that is not given. -/
lemma subset_collectMembers (pairs : List (String × α)) : collectMembers pairs ⊆ pairs := by
  induction pairs using List.reverseRecOn with
  | nil => exact List.nil_subset _
  | append_singleton pairs pair ih =>
    rw [collectMembers_concat]
    intro m hm
    rcases mem_of_mem_insertMember hm with rfl | hm
    · exact List.mem_append_right _ List.mem_cons_self
    · exact List.mem_append_left _ (ih hm)

/-- The keys stand in the order of their first occurrences. -/
lemma keys_collectMembers (pairs : List (String × α)) :
    (collectMembers pairs).map (·.1) = (pairs.map (·.1)).eraseDups := by
  induction pairs using List.reverseRecOn with
  | nil => rfl
  | append_singleton pairs pair ih =>
    rw [collectMembers_concat, keys_insertMember, ih, List.map_append, List.map_singleton,
      eraseDups_concat]
    simp only [List.mem_eraseDups]

/-- The value of a key is the last one that it is given. -/
lemma lookupMember_collectMembers {before after : List (String × α)}
    (last : key ∉ after.map (·.1)) :
    lookupMember key (collectMembers (before ++ (key, value) :: after)) = some value := by
  induction after using List.reverseRecOn with
  | nil => rw [collectMembers_concat, lookupMember_insertMember, if_pos rfl]
  | append_singleton after pair ih =>
    rw [List.map_append, List.mem_append, not_or] at last
    have other : pair.1 ≠ key := fun h => last.2 (by simp [h])
    rw [← List.cons_append, ← List.append_assoc, collectMembers_concat,
      lookupMember_insertMember, if_neg other, ih last.1]

end OperationHooks
