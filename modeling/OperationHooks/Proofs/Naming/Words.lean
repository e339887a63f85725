import OperationHooks.Proofs.Naming.Ascii
import OperationHooks.Proofs.Text.Parts

/-!
# Where names are cut into words

The two passes that cut a name amount to one: an underscore goes before a capital that has a small
letter or a digit before it, or a small letter behind it. A converted name keeps all characters of
the name but the underscores, in letters of other case. So a name that is converted to a single word
is that word, in small letters, with a capital, or in capitals, with underscores around it.
-/

namespace OperationHooks

/-! ### Small letters and capitals -/

lemma not_isLower_of_isUpper {c : Char} (h : c.isUpper = true) : c.isLower = false := by
  simp only [Char.isUpper, Char.isLower, decide_eq_true_eq, Bool.and_eq_false_iff,
    decide_eq_false_iff_not, UInt32.le_iff_toNat_le, ge_iff_le] at h ⊢
  have below := h.2
  left
  simp at below ⊢
  omega

lemma not_isDigit_of_isUpper {c : Char} (h : c.isUpper = true) : c.isDigit = false := by
  simp only [Char.isUpper, Char.isDigit, decide_eq_true_eq, Bool.and_eq_false_iff,
    decide_eq_false_iff_not, UInt32.le_iff_toNat_le, ge_iff_le] at h ⊢
  have above := h.1
  right
  simp at above ⊢
  omega

lemma not_isUpper_of_isLower {c : Char} (h : c.isLower = true) : c.isUpper = false := by
  by_contra hu
  rw [not_isLower_of_isUpper (by simpa using hu)] at h
  cases h

lemma isNameContinue_of_isLower {c : Char} (h : c.isLower = true) : isNameContinue c = true := by
  simp [isNameContinue, isNameStart, Char.isAlpha, h]

lemma isNameContinue_of_isUpper {c : Char} (h : c.isUpper = true) : isNameContinue c = true := by
  simp [isNameContinue, isNameStart, Char.isAlpha, h]

lemma isUpper_toUpper {c : Char} (h : c.isLower = true) : c.toUpper.isUpper = true :=
  forall_ascii (p := fun c => c.isLower = true → c.toUpper.isUpper = true) (by decide)
    (ascii_of_isNameContinue (isNameContinue_of_isLower h)) h

lemma isLower_or_isUpper {c : Char} (h : isNameContinue c = true)
    (small : c.toLower.isLower = true) : c.isLower = true ∨ c.isUpper = true :=
  forall_ascii (p := fun c => isNameContinue c = true → c.toLower.isLower = true →
    c.isLower = true ∨ c.isUpper = true) (by decide) (ascii_of_isNameContinue h) h small

lemma toLower_of_isLower {c : Char} (h : c.isLower = true) : c.toLower = c :=
  forall_ascii (p := fun c => c.isLower = true → c.toLower = c) (by decide)
    (ascii_of_isNameContinue (isNameContinue_of_isLower h)) h

lemma map_toLower_of_isLower {w : List Char} (small : ∀ c ∈ w, c.isLower = true) :
    w.map Char.toLower = w :=
  (List.map_congr_left fun c hc => toLower_of_isLower (small c hc)).trans (List.map_id' w)

lemma toUpper_toLower {c : Char} (h : isNameContinue c = true) :
    c.toLower.toUpper = c.toUpper :=
  forall_ascii (p := fun c => isNameContinue c = true → c.toLower.toUpper = c.toUpper)
    (by decide) (ascii_of_isNameContinue h) h

lemma toLower_toUpper {c : Char} (h : isNameContinue c = true) :
    c.toUpper.toLower = c.toLower :=
  forall_ascii (p := fun c => isNameContinue c = true → c.toUpper.toLower = c.toLower)
    (by decide) (ascii_of_isNameContinue h) h

lemma toUpper_of_isUpper {c : Char} (h : isNameContinue c = true) (hu : c.isUpper = true) :
    c.toUpper = c :=
  forall_ascii (p := fun c => isNameContinue c = true → c.isUpper = true → c.toUpper = c)
    (by decide) (ascii_of_isNameContinue h) h hu

lemma toLower_toLower {c : Char} (h : isNameContinue c = true) : c.toLower.toLower = c.toLower :=
  forall_ascii (p := fun c => isNameContinue c = true → c.toLower.toLower = c.toLower)
    (by decide) (ascii_of_isNameContinue h) h

lemma toLower_eq_underscore {c : Char} (h : isNameContinue c = true) :
    c.toLower = '_' ↔ c = '_' :=
  forall_ascii (p := fun c => isNameContinue c = true → (c.toLower = '_' ↔ c = '_'))
    (by decide) (ascii_of_isNameContinue h) h

lemma filter_map_toLower {cs : List Char} (h : ∀ c ∈ cs, isNameContinue c = true) :
    (cs.map Char.toLower).filter (· ≠ '_') = (cs.filter (· ≠ '_')).map Char.toLower := by
  rw [List.filter_map]
  congr 1
  apply List.filter_congr
  intro c hc
  simp [toLower_eq_underscore (h c hc)]

namespace Naming

/-! ### One pass -/

/-- Whether a word starts with `b`, given the characters before and behind it. -/
def startsWord (a b : Char) (r : List Char) : Bool :=
  b.isUpper && (a.isLower || a.isDigit || (a != '\n' && r.head?.any Char.isLower))

/-- A name with an underscore before each start of a word. -/
def splitWords : List Char → List Char
  | a :: b :: r =>
    if startsWord a b r then a :: '_' :: splitWords (b :: r) else a :: splitWords (b :: r)
  | cs => cs

lemma exists_splitCapitalized (c : Char) (cs : List Char) :
    ∃ r, splitCapitalized (c :: cs) = c :: r := by
  match cs with
  | [] => exact ⟨[], by simp [splitCapitalized]⟩
  | [u] => exact ⟨[u], by simp [splitCapitalized]⟩
  | u :: l :: r =>
    rw [splitCapitalized]
    split <;> exact ⟨_, rfl⟩

/-- Behind a run of small letters the passes go on as one. -/
lemma splitCamel_smallLetters {l : Char} {ls cs : List Char} (hl : l.isLower = true)
    (hls : ∀ c ∈ ls, c.isLower = true)
    (ih : splitCamel (splitCapitalized cs) = splitWords cs) :
    splitCamel (l :: (ls ++ splitCapitalized cs)) = splitWords (l :: (ls ++ cs)) := by
  induction ls generalizing l with
  | nil =>
    cases cs with
    | nil => simp [splitCapitalized, splitCamel, splitWords]
    | cons d cs =>
      obtain ⟨r, hr⟩ := exists_splitCapitalized d cs
      rw [hr] at ih
      simp only [List.nil_append, hr, splitCamel, splitWords, startsWord, hl, ih, Bool.true_or,
        Bool.true_and, Bool.and_true]
  | cons k ls ih' =>
    have hk : k.isLower = true := hls k List.mem_cons_self
    have rest := ih' hk fun c hc => hls c (List.mem_cons_of_mem _ hc)
    simp only [List.cons_append, splitCamel, splitWords, startsWord, not_isUpper_of_isLower hk,
      rest, Bool.and_false, Bool.false_and, Bool.false_eq_true, if_false]

/-- The two passes are one. -/
lemma splitCamel_splitCapitalized (cs : List Char) :
    splitCamel (splitCapitalized cs) = splitWords cs := by
  fun_induction splitCapitalized cs with
  | case1 c u l r h ih =>
    obtain ⟨hc, hu, hl⟩ := h
    have small : ∀ d ∈ r.takeWhile Char.isLower, d.isLower = true := fun _ => List.mem_takeWhile_imp
    have run := splitCamel_smallLetters hl small ih
    rw [List.takeWhile_append_dropWhile] at run
    simp [splitCamel, splitWords, startsWord, run, hc, hu, hl, not_isUpper_of_isLower hl,
      not_isLower_of_isUpper hu, not_isDigit_of_isUpper hu]
  | case2 c u l r h ih =>
    obtain ⟨t, ht⟩ := exists_splitCapitalized u (l :: r)
    rw [ht] at ih ⊢
    have same : startsWord c u (l :: r) = ((c.isLower || c.isDigit) && u.isUpper) := by
      rw [startsWord]
      cases hu : u.isUpper <;> cases hl : l.isLower <;> simp_all
    rw [splitCamel, splitWords, same, ih]
  | case3 cs h =>
    rcases cs with _ | ⟨c, _ | ⟨u, _ | ⟨l, r⟩⟩⟩
    · rfl
    · rfl
    · simp [splitCamel, splitWords, startsWord, Bool.and_comm]
    · exact absurd rfl (h c u l r)

lemma mem_splitWords {c : Char} {cs : List Char} (h : c ∈ splitWords cs) : c = '_' ∨ c ∈ cs := by
  rw [← splitCamel_splitCapitalized] at h
  rcases mem_splitCamel h with h | h
  · exact .inl h
  · exact mem_splitCapitalized h

lemma isNameContinue_splitWords {cs : List Char} (h : ∀ c ∈ cs, isNameContinue c = true) :
    ∀ c ∈ splitWords cs, isNameContinue c = true := by
  intro c hc
  rcases mem_splitWords hc with rfl | hc
  · decide
  · exact h c hc

lemma snakeChars_eq {cs : List Char} (h : ∀ c ∈ cs, isNameContinue c = true) :
    snakeChars cs = (splitWords cs).map Char.toLower := by
  rw [snakeChars, splitCamel_splitCapitalized, lower, lowerAfter_ascii]
  exact fun c hc => ascii_of_isNameContinue (isNameContinue_splitWords h c hc)

lemma subset_splitWords (cs : List Char) : cs ⊆ splitWords cs := by
  fun_induction splitWords cs with
  | case1 a b r h ih => exact List.cons_subset_cons a (List.subset_cons_of_subset _ ih)
  | case2 a b r h ih => exact List.cons_subset_cons a ih
  | case3 cs h => exact List.Subset.refl cs

lemma filter_splitWords (cs : List Char) :
    (splitWords cs).filter (· ≠ '_') = cs.filter (· ≠ '_') := by
  have keep (x : Char) {xs ys : List Char} (h : xs.filter (· ≠ '_') = ys.filter (· ≠ '_')) :
      (x :: xs).filter (· ≠ '_') = (x :: ys).filter (· ≠ '_') := by
    rw [List.filter_cons, List.filter_cons, h]
  fun_induction splitWords cs with
  | case1 a b r h ih =>
    apply keep
    rw [List.filter_cons_of_neg (by simp), ih]
  | case2 a b r h ih => exact keep a ih
  | case3 cs h => rfl

/-! ### Words put together -/

/-- Words with underscores between them, put together with a capital for each. -/
def joinCapitalized (cs : List Char) : List Char := (splitAtChar '_' cs).flatMap capitalize

lemma pascalChars_eq {cs : List Char} (h : ∀ c ∈ cs, isNameContinue c = true) :
    pascalChars cs = joinCapitalized ((splitWords cs).map Char.toLower) := by
  rw [pascalChars, snakeChars_eq h, joinCapitalized]

lemma joinCapitalized_append (xs ys : List Char) :
    joinCapitalized (xs ++ '_' :: ys) = joinCapitalized xs ++ joinCapitalized ys := by
  rw [joinCapitalized, splitAtChar_append, List.flatMap_append]
  rfl

lemma joinCapitalized_word {w : List Char} (h : '_' ∉ w) : joinCapitalized w = capitalize w := by
  rw [joinCapitalized, splitAtChar_of_not_mem h, List.flatMap_singleton]

lemma map_toLower_capitalize {w : List Char} (h : ∀ c ∈ w, isNameContinue c = true) :
    (capitalize w).map Char.toLower = w.map Char.toLower := by
  cases w with
  | nil => rfl
  | cons c w =>
    rw [capitalize_ascii fun d hd => ascii_of_isNameContinue (h d hd), List.map_cons, List.map_cons,
      toLower_toUpper (h c List.mem_cons_self), List.map_map]
    congr 1
    apply List.map_congr_left
    intro d hd
    exact toLower_toLower (h d (List.mem_cons_of_mem _ hd))

lemma map_toLower_joinCapitalized {cs : List Char} (h : ∀ c ∈ cs, isNameContinue c = true) :
    (joinCapitalized cs).map Char.toLower = (cs.filter (· ≠ '_')).map Char.toLower := by
  have words : ∀ w ∈ splitAtChar '_' cs, (capitalize w).map Char.toLower = w.map Char.toLower := by
    intro w hw
    exact map_toLower_capitalize fun c hc => h c (mem_of_mem_splitAtChar hw hc)
  rw [joinCapitalized, ← flatten_splitAtChar, List.map_flatMap, List.map_flatten, List.flatMap_def,
    List.map_congr_left words]

/-- A converted name keeps all characters but the underscores. -/
lemma map_toLower_pascalChars {cs : List Char} (h : ∀ c ∈ cs, isNameContinue c = true) :
    (pascalChars cs).map Char.toLower = (cs.filter (· ≠ '_')).map Char.toLower := by
  have small : ∀ c ∈ (splitWords cs).map Char.toLower, isNameContinue c = true := by
    intro c hc
    obtain ⟨d, hd, rfl⟩ := List.mem_map.mp hc
    exact isNameContinue_toLower (isNameContinue_splitWords h d hd)
  rw [pascalChars_eq h, map_toLower_joinCapitalized small,
    filter_map_toLower (isNameContinue_splitWords h), filter_splitWords, List.map_map]
  apply List.map_congr_left
  intro c hc
  exact toLower_toLower (h c (List.mem_filter.mp hc).1)

/-! ### Underscores around a name -/

/-- A text with underscores put around it. -/
inductive Padded (w : List Char) : List Char → Prop where
  | self : Padded w w
  | before {cs : List Char} (h : Padded w cs) : Padded w ('_' :: cs)
  | behind {cs : List Char} (h : Padded w cs) : Padded w (cs ++ ['_'])

lemma Padded.isNameContinue {w cs : List Char} (padded : Padded w cs)
    (h : ∀ c ∈ w, isNameContinue c = true) : ∀ c ∈ cs, isNameContinue c = true := by
  induction padded with
  | self => exact h
  | before _ ih =>
    intro c hc
    rcases List.mem_cons.mp hc with rfl | hc
    · rfl
    · exact ih c hc
  | behind _ ih =>
    intro c hc
    rcases List.mem_append.mp hc with hc | hc
    · exact ih c hc
    · rw [List.mem_singleton.mp hc]
      rfl

lemma splitWords_concat_underscore (cs : List Char) :
    splitWords (cs ++ ['_']) = splitWords cs ++ ['_'] := by
  fun_induction splitWords cs with
  | case1 a b r h ih =>
    have same : startsWord a b (r ++ ['_']) = startsWord a b r := by
      cases r <;> simp [startsWord]
    rw [List.cons_append, List.cons_append, splitWords, same, if_pos h]
    simpa using ih
  | case2 a b r h ih =>
    have same : startsWord a b (r ++ ['_']) = startsWord a b r := by
      cases r <;> simp [startsWord]
    rw [List.cons_append, List.cons_append, splitWords, same, if_neg h]
    simpa using ih
  | case3 cs h =>
    match cs with
    | [] => rfl
    | [a] => simp [splitWords, startsWord]
    | a :: b :: r => exact absurd rfl (h a b r)

lemma joinCapitalized_underscore_cons (cs : List Char) :
    joinCapitalized ('_' :: cs) = joinCapitalized cs :=
  joinCapitalized_append [] cs

lemma joinCapitalized_concat_underscore (cs : List Char) :
    joinCapitalized (cs ++ ['_']) = joinCapitalized cs := by
  rw [joinCapitalized_append]
  exact List.append_nil _

lemma pascalChars_underscore_cons {cs : List Char} (h : ∀ c ∈ cs, isNameContinue c = true) :
    pascalChars ('_' :: cs) = pascalChars cs := by
  have low : '_'.toLower = '_' := rfl
  rw [pascalChars_eq (Padded.self.before.isNameContinue h), pascalChars_eq h]
  cases cs with
  | nil => rfl
  | cons b r =>
    rw [splitWords]
    split
    · rw [List.map_cons, List.map_cons, low, joinCapitalized_underscore_cons,
        joinCapitalized_underscore_cons]
    · rw [List.map_cons, low, joinCapitalized_underscore_cons]

lemma pascalChars_concat_underscore {cs : List Char} (h : ∀ c ∈ cs, isNameContinue c = true) :
    pascalChars (cs ++ ['_']) = pascalChars cs := by
  have low : '_'.toLower = '_' := rfl
  rw [pascalChars_eq (Padded.self.behind.isNameContinue h), pascalChars_eq h,
    splitWords_concat_underscore, List.map_append, List.map_singleton, low,
    joinCapitalized_concat_underscore]

/-- Underscores around a name are lost. -/
lemma pascalChars_padded {w cs : List Char} (h : ∀ c ∈ w, isNameContinue c = true)
    (padded : Padded w cs) : pascalChars cs = pascalChars w := by
  induction padded with
  | self => rfl
  | before padded ih => rw [pascalChars_underscore_cons (padded.isNameContinue h), ih]
  | behind padded ih => rw [pascalChars_concat_underscore (padded.isNameContinue h), ih]

/-! ### Names of one word -/

/-- The spellings of a word that are not cut. -/
def spellings (w : List Char) : List (List Char) := [w, capitalize w, w.map Char.toUpper]

lemma splitWords_eq_self {a : Char} {r : List Char}
    (h : (∀ c ∈ r, c.isLower = true) ∨ ∀ c ∈ a :: r, c.isUpper = true) :
    splitWords (a :: r) = a :: r := by
  induction r generalizing a with
  | nil => rfl
  | cons b r ih =>
    have inside : startsWord a b r = false := by
      rcases h with h | h
      · simp [startsWord, not_isUpper_of_isLower (h b List.mem_cons_self)]
      · have ha := h a List.mem_cons_self
        have next : r.head?.any Char.isLower = false := by
          cases r with
          | nil => rfl
          | cons c r => simpa using not_isLower_of_isUpper (h c (by simp))
        simp [startsWord, not_isLower_of_isUpper ha, not_isDigit_of_isUpper ha, next]
    have rest : (∀ c ∈ r, c.isLower = true) ∨ ∀ c ∈ b :: r, c.isUpper = true := by
      rcases h with h | h
      · exact .inl fun c hc => h c (List.mem_cons_of_mem _ hc)
      · exact .inr fun c hc => h c (List.mem_cons_of_mem _ hc)
    rw [splitWords, inside, ih rest]
    rfl

/-- Letters that are not cut have no capital behind the first, or are capitals throughout. -/
lemma case_of_not_mem_splitWords {a : Char} {r : List Char}
    (letters : ∀ c ∈ a :: r, c.isLower = true ∨ c.isUpper = true)
    (uncut : '_' ∉ splitWords (a :: r)) :
    (∀ c ∈ r, c.isLower = true) ∨ ∀ c ∈ a :: r, c.isUpper = true := by
  induction r generalizing a with
  | nil => exact .inl (by simp)
  | cons b r ih =>
    have inside : startsWord a b r = false := by
      by_contra start
      rw [splitWords, if_pos (by simpa using start)] at uncut
      simp at uncut
    rw [splitWords, inside] at uncut
    have rest := ih (fun c hc => letters c (List.mem_cons_of_mem _ hc))
      fun h => uncut (List.mem_cons_of_mem _ h)
    rcases letters b (by simp) with hb | hb
    · rcases rest with rest | rest
      · left
        intro c hc
        rcases List.mem_cons.mp hc with rfl | hc
        · exact hb
        · exact rest c hc
      · have := rest b List.mem_cons_self
        rw [not_isUpper_of_isLower hb] at this
        cases this
    · -- the capital starts no word, so a capital stands before it and no small letter behind it
      simp only [startsWord, hb, Bool.true_and, Bool.or_eq_false_iff] at inside
      obtain ⟨⟨notLower, -⟩, next⟩ := inside
      have ha : a.isUpper = true := (letters a List.mem_cons_self).resolve_left (by simp [notLower])
      have newline : a ≠ '\n' := by
        rintro rfl
        cases ha
      right
      intro c hc
      rcases List.mem_cons.mp hc with rfl | hc
      · exact ha
      · rcases rest with rest | rest
        · cases r with
          | nil =>
            rw [List.mem_singleton.mp hc]
            exact hb
          | cons d r =>
            simp [newline, rest d List.mem_cons_self] at next
        · exact rest c hc

lemma head?_splitWords (cs : List Char) : (splitWords cs).head? = cs.head? := by
  fun_cases splitWords cs <;> rfl

lemma getLast?_splitWords (cs : List Char) : (splitWords cs).getLast? = cs.getLast? := by
  fun_induction splitWords cs with
  | case1 a b r h ih => simp [List.getLast?_cons, ih]
  | case2 a b r h ih => simp [List.getLast?_cons, ih]
  | case3 cs h => rfl

lemma joinCapitalized_ne_nil {cs : List Char} (h : ∀ c ∈ cs, isNameContinue c = true) {c : Char}
    (hc : c ∈ cs) (hu : c ≠ '_') : joinCapitalized cs ≠ [] := by
  intro nothing
  have kept := map_toLower_joinCapitalized h
  rw [nothing, List.map_nil, eq_comm, List.map_eq_nil_iff] at kept
  exact List.ne_nil_of_mem (List.mem_filter.mpr ⟨hc, by simpa using hu⟩) kept

lemma not_isLower_head?_joinCapitalized {cs : List Char}
    (h : ∀ c ∈ cs, isNameContinue c = true) :
    ∀ c ∈ (joinCapitalized cs).head?, c.isLower = false := by
  apply head?_flatMap
  intro w hw
  refine (capitalize_word fun c hc => ⟨h c (mem_of_mem_splitAtChar hw hc), ?_⟩).2
  rintro rfl
  exact not_mem_of_mem_splitAtChar hw hc

lemma isLower_of_mem_tail_capitalize {w : List Char} (small : ∀ c ∈ w, c.isLower = true) :
    ∀ c ∈ (capitalize w).tail, c.isLower = true := by
  cases w with
  | nil => simp [capitalize]
  | cons c w =>
    have ascii : ∀ d ∈ c :: w, d.toNat < 128 := fun d hd =>
      ascii_of_isNameContinue (isNameContinue_of_isLower (small d hd))
    rw [capitalize_ascii ascii]
    intro d hd
    obtain ⟨e, he, rfl⟩ := List.mem_map.mp hd
    have low := small e (List.mem_cons_of_mem _ he)
    rw [toLower_of_isLower low]
    exact low

/-- A name that is converted to one word is not cut between its ends. -/
lemma not_mem_splitWords {w cs : List Char} (small : ∀ c ∈ w, c.isLower = true)
    (h : ∀ c ∈ cs, isNameContinue c = true) (starts : cs.head? ≠ some '_')
    (ends : cs.getLast? ≠ some '_') (word : pascalChars cs = capitalize w) :
    '_' ∉ splitWords cs := by
  intro cut
  obtain ⟨ys, zs, hs⟩ := List.append_of_mem cut
  have low : '_'.toLower = '_' := rfl
  have named {xs : List Char} (sub : xs ⊆ splitWords cs) :
      ∀ c ∈ xs.map Char.toLower, isNameContinue c = true := by
    intro c hc
    obtain ⟨d, hd, rfl⟩ := List.mem_map.mp hc
    exact isNameContinue_toLower (isNameContinue_splitWords h d (sub hd))
  have nonempty {xs : List Char} (sub : xs ⊆ splitWords cs) {c : Char} (hc : c ∈ xs)
      (hu : c ≠ '_') : joinCapitalized (xs.map Char.toLower) ≠ [] := by
    refine joinCapitalized_ne_nil (named sub) (List.mem_map.mpr ⟨c, hc, rfl⟩) ?_
    exact mt (toLower_eq_underscore (isNameContinue_splitWords h c (sub hc))).mp hu
  have left : ys ⊆ splitWords cs := hs ▸ List.subset_append_left _ _
  have right : zs ⊆ splitWords cs := by
    rw [hs]
    exact List.subset_append_of_subset_right _ (List.subset_cons_self _ _)
  have parts : capitalize w =
      joinCapitalized (ys.map Char.toLower) ++ joinCapitalized (zs.map Char.toLower) := by
    rw [← word, pascalChars_eq h, hs, List.map_append, List.map_cons, low, joinCapitalized_append]
  have first : joinCapitalized (ys.map Char.toLower) ≠ [] := by
    rw [← head?_splitWords, hs] at starts
    cases ys with
    | nil => exact absurd rfl starts
    | cons c ys =>
      refine nonempty left List.mem_cons_self ?_
      rintro rfl
      exact starts rfl
  have last : joinCapitalized (zs.map Char.toLower) ≠ [] := by
    rw [← getLast?_splitWords, hs] at ends
    rcases List.eq_nil_or_concat' zs with rfl | ⟨zs, c, rfl⟩
    · simp at ends
    · refine nonempty right (List.mem_append_right _ List.mem_cons_self) ?_
      rintro rfl
      simp [List.getLast?_cons] at ends
  -- the second part starts with a capital or a digit inside the word
  obtain ⟨d, ds, hd⟩ := List.exists_cons_of_ne_nil first
  obtain ⟨e, es, he⟩ := List.exists_cons_of_ne_nil last
  have lower : e.isLower = true := by
    apply isLower_of_mem_tail_capitalize small
    rw [parts, hd, he]
    simp
  have notLower := not_isLower_head?_joinCapitalized (named right) e (by rw [he]; rfl)
  rw [lower] at notLower
  cases notLower

lemma mem_spellings {w cs : List Char} (h : ∀ c ∈ cs, isNameContinue c = true)
    (letters : ∀ c ∈ cs, c.isLower = true ∨ c.isUpper = true) (same : cs.map Char.toLower = w)
    (letterCase : (∀ c ∈ cs.tail, c.isLower = true) ∨ ∀ c ∈ cs, c.isUpper = true) :
    cs ∈ spellings w := by
  rw [← same, spellings]
  rcases letterCase with tail | upper
  · cases cs with
    | nil => simp
    | cons c r =>
      have hc := h c List.mem_cons_self
      rcases letters c List.mem_cons_self with low | up
      · have small : ∀ d ∈ c :: r, d.isLower = true := List.forall_mem_cons.mpr ⟨low, tail⟩
        rw [map_toLower_of_isLower small]
        exact List.mem_cons_self
      · have whole : capitalize ((c :: r).map Char.toLower) = c :: r := by
          have rest : r.map Char.toLower = r := map_toLower_of_isLower tail
          rw [List.map_cons, rest, capitalize_ascii, toUpper_toLower hc, toUpper_of_isUpper hc up,
            rest]
          intro d hd
          apply ascii_of_isNameContinue
          rcases List.mem_cons.mp hd with rfl | hd
          · exact isNameContinue_toLower hc
          · exact h d (List.mem_cons_of_mem _ hd)
        rw [whole]
        simp
  · have whole : (cs.map Char.toLower).map Char.toUpper = cs := by
      rw [List.map_map]
      refine (List.map_congr_left fun c hc => ?_).trans (List.map_id' cs)
      exact (toUpper_toLower (h c hc)).trans (toUpper_of_isUpper (h c hc) (upper c hc))
    rw [whole]
    simp

/-- A name that is converted to one word is a spelling of the word with underscores around it. -/
lemma exists_padded {w cs : List Char} (small : ∀ c ∈ w, c.isLower = true)
    (h : ∀ c ∈ cs, isNameContinue c = true) (word : pascalChars cs = capitalize w) :
    ∃ x ∈ spellings w, Padded x cs := by
  induction hn : cs.length using Nat.strong_induction_on generalizing cs with
  | h n ih =>
    by_cases starts : cs.head? = some '_'
    · obtain ⟨r, rfl⟩ := List.head?_eq_some_iff.mp starts
      have hr : ∀ c ∈ r, isNameContinue c = true := fun c hc => h c (List.mem_cons_of_mem _ hc)
      rw [pascalChars_underscore_cons hr] at word
      obtain ⟨x, hx, padded⟩ := ih r.length (by simp [← hn]) hr word rfl
      exact ⟨x, hx, padded.before⟩
    by_cases ends : cs.getLast? = some '_'
    · obtain ⟨r, rfl⟩ := List.getLast?_eq_some_iff.mp ends
      have hr : ∀ c ∈ r, isNameContinue c = true := fun c hc => h c (List.mem_append_left _ hc)
      rw [pascalChars_concat_underscore hr] at word
      obtain ⟨x, hx, padded⟩ := ih r.length (by simp [← hn]) hr word rfl
      exact ⟨x, hx, padded.behind⟩
    refine ⟨cs, ?_, .self⟩
    have uncut := not_mem_splitWords small h starts ends word
    have kept := map_toLower_pascalChars h
    have all : cs.filter (· ≠ '_') = cs := by
      apply List.filter_eq_self.mpr
      intro c hc
      simp only [ne_eq, decide_not, Bool.not_eq_true', decide_eq_false_iff_not]
      rintro rfl
      exact uncut (subset_splitWords cs hc)
    have same : cs.map Char.toLower = w := by
      rw [all, word, map_toLower_capitalize fun c hc => isNameContinue_of_isLower (small c hc),
        map_toLower_of_isLower small] at kept
      exact kept.symm
    have letters : ∀ c ∈ cs, c.isLower = true ∨ c.isUpper = true := by
      intro c hc
      apply isLower_or_isUpper (h c hc)
      apply small
      rw [← same]
      exact List.mem_map.mpr ⟨c, hc, rfl⟩
    apply mem_spellings h letters same
    cases cs with
    | nil => exact .inl (by simp)
    | cons a r => exact case_of_not_mem_splitWords letters uncut

lemma spelling_spec {w x : List Char} (small : ∀ c ∈ w, c.isLower = true)
    (hx : x ∈ spellings w) :
    (∀ c ∈ x, isNameContinue c = true) ∧ x.map Char.toLower = w ∧ splitWords x = x := by
  cases w with
  | nil =>
    have nothing : x = [] := by simpa [spellings, capitalize] using hx
    subst nothing
    exact ⟨by simp, rfl, rfl⟩
  | cons c w =>
    have hc : c.isLower = true := small c List.mem_cons_self
    have hw : ∀ d ∈ w, d.isLower = true := fun d hd => small d (List.mem_cons_of_mem _ hd)
    have whole : capitalize (c :: w) = c.toUpper :: w := by
      rw [capitalize_ascii fun d hd =>
        ascii_of_isNameContinue (isNameContinue_of_isLower (small d hd)), map_toLower_of_isLower hw]
    have first := toLower_toUpper (isNameContinue_of_isLower hc)
    have upper : ∀ d ∈ (c :: w).map Char.toUpper, d.isUpper = true := by
      intro d hd
      obtain ⟨e, he, rfl⟩ := List.mem_map.mp hd
      exact isUpper_toUpper (small e he)
    simp only [spellings, List.mem_cons, List.not_mem_nil, or_false] at hx
    rcases hx with rfl | rfl | rfl
    · exact ⟨fun d hd => isNameContinue_of_isLower (small d hd), map_toLower_of_isLower small,
        splitWords_eq_self (.inl hw)⟩
    · rw [whole]
      refine ⟨?_, ?_, splitWords_eq_self (.inl hw)⟩
      · intro d hd
        rcases List.mem_cons.mp hd with rfl | hd
        · exact isNameContinue_of_isUpper (isUpper_toUpper hc)
        · exact isNameContinue_of_isLower (hw d hd)
      · rw [List.map_cons, map_toLower_of_isLower hw, first, toLower_of_isLower hc]
    · refine ⟨fun d hd => isNameContinue_of_isUpper (upper d hd), ?_,
        splitWords_eq_self (.inr upper)⟩
      rw [List.map_map]
      refine (List.map_congr_left fun d hd => ?_).trans (List.map_id' _)
      exact (toLower_toUpper (isNameContinue_of_isLower (small d hd))).trans
        (toLower_of_isLower (small d hd))

/-- A name is converted to one word exactly if it is a spelling of the word that is not cut, with
underscores around it. -/
lemma pascalChars_eq_capitalize_iff {w cs : List Char} (small : ∀ c ∈ w, c.isLower = true)
    (h : ∀ c ∈ cs, isNameContinue c = true) :
    pascalChars cs = capitalize w ↔ ∃ x ∈ spellings w, Padded x cs := by
  constructor
  · exact exists_padded small h
  · rintro ⟨x, hx, padded⟩
    obtain ⟨named, same, uncut⟩ := spelling_spec small hx
    have noUnderscore : '_' ∉ w := fun hu => absurd (small '_' hu) (by decide)
    rw [pascalChars_padded named padded, pascalChars_eq named, uncut, same,
      joinCapitalized_word noUnderscore]

end Naming

end OperationHooks
