import Mathlib.Algebra.Ring.Nat
import Mathlib.Data.List.Infix
import OperationHooks.CommandLine.Run
import OperationHooks.Proofs.Text.Joining
import OperationHooks.Proofs.Text.Parts

/-!
# Counting hooks by the look of a text

Hooks are counted by how often a text holds the beginning of one. A character that is no part of the
pattern separates: what stands in front of it and what stands behind it are counted on their own.
-/

namespace OperationHooks

namespace CommandLine

open TypeScript

/-! ### Occurrences -/

section Occurrences

variable {p : List Char}

lemma occurrences_skip (p : List Char) (n : Nat) (t : List Char) :
    occurrences p n t = occurrences p 0 (t.drop n) := by
  induction t generalizing n with
  | nil => simp [occurrences]
  | cons c t ih =>
    cases n with
    | zero => rfl
    | succ n => simp [occurrences, ih n]

/-- An occurrence counts, and counting goes on behind it. -/
lemma occurrences_append (some_char : p ≠ []) (r : List Char) :
    occurrences p 0 (p ++ r) = occurrences p 0 r + 1 := by
  obtain ⟨c, p, rfl⟩ := List.exists_cons_of_ne_nil some_char
  have front : (c :: p).isPrefixOf (c :: (p ++ r)) = true :=
    List.isPrefixOf_iff_prefix.mpr (List.prefix_append (c :: p) r)
  rw [List.cons_append, occurrences, if_pos front, occurrences_skip]
  simp

lemma occurrences_cons {c : Char} {t : List Char} (h : ¬p <+: c :: t) :
    occurrences p 0 (c :: t) = occurrences p 0 t := by
  have front : p.isPrefixOf (c :: t) ≠ true := mt List.isPrefixOf_iff_prefix.mp h
  rw [occurrences, if_neg front]

lemma occurrences_eq_zero_iff (some_char : p ≠ []) {t : List Char} :
    occurrences p 0 t = 0 ↔ ¬p <:+: t := by
  induction t with
  | nil => simp [occurrences, some_char]
  | cons c t ih =>
    rw [List.infix_cons_iff]
    by_cases front : p <+: c :: t
    · obtain ⟨r, hr⟩ := front
      simp [← hr, occurrences_append some_char]
    · rw [occurrences_cons front, ih]
      simp [front]

/-- A pattern ends in front of a character that is no part of it. -/
lemma prefix_of_prefix_append_cons {c : Char} (apart : c ∉ p) {xs ys : List Char}
    (h : p <+: xs ++ c :: ys) : p <+: xs := by
  rcases List.prefix_or_prefix_of_prefix h (List.prefix_append xs (c :: ys)) with before | ⟨r, rfl⟩
  · exact before
  · cases r with
    | nil => simp
    | cons d r =>
      obtain ⟨rfl, -⟩ := List.cons_prefix_cons.mp ((List.prefix_append_right_inj xs).mp h)
      simp at apart

/-- A character that is no part of the pattern separates. -/
lemma occurrences_append_cons {c : Char} (some_char : p ≠ []) (apart : c ∉ p) (xs ys : List Char) :
    occurrences p 0 (xs ++ c :: ys) = occurrences p 0 xs + occurrences p 0 ys := by
  induction hn : xs.length using Nat.strong_induction_on generalizing xs with
  | _ n ih =>
    subst hn
    by_cases front : p <+: xs
    · -- the first occurrence is passed over as a whole
      obtain ⟨r, rfl⟩ := front
      have shorter : r.length < (p ++ r).length := by
        simpa using List.length_pos_of_ne_nil some_char
      have behind := ih r.length shorter r rfl
      rw [List.append_assoc, occurrences_append some_char, occurrences_append some_char, behind]
      omega
    · cases xs with
      | nil =>
        have here : ¬p <+: [] ++ c :: ys := mt (prefix_of_prefix_append_cons apart) front
        rw [List.nil_append, occurrences_cons here, occurrences, Nat.zero_add]
      | cons x xs =>
        have here : ¬p <+: (x :: xs) ++ c :: ys := mt (prefix_of_prefix_append_cons apart) front
        have behind := ih xs.length (Nat.lt_succ_self _) xs rfl
        rw [List.cons_append] at here ⊢
        rw [occurrences_cons here, occurrences_cons front, behind]

end Occurrences

/-! ### The beginning of a hook -/

/-- What the beginning of a hook looks like. -/
def hookMark : List Char := "export const use".toList

/-- A text that holds what looks like the beginning of a hook. -/
def HoldsMark (cs : List Char) : Prop := hookMark <:+: cs

instance (cs : List Char) : Decidable (HoldsMark cs) := inferInstanceAs (Decidable (_ <:+: _))

lemma hookCount_eq (text : String) : hookCount text = occurrences hookMark 0 text.toList := rfl

lemma hookCount_eq_zero_iff {text : String} : hookCount text = 0 ↔ ¬HoldsMark text.toList :=
  occurrences_eq_zero_iff (by decide)

section Mark

variable {xs ys : List Char}

lemma holdsMark_append_cons {c : Char} (apart : c ∉ hookMark) :
    HoldsMark (xs ++ c :: ys) ↔ HoldsMark xs ∨ HoldsMark ys := by
  have some_char : hookMark ≠ [] := by decide
  have count := occurrences_append_cons some_char apart xs ys
  rw [HoldsMark, HoldsMark, HoldsMark, ← not_iff_not, not_or, ← occurrences_eq_zero_iff some_char,
    ← occurrences_eq_zero_iff some_char, ← occurrences_eq_zero_iff some_char, count]
  exact Nat.add_eq_zero_iff

lemma not_holdsMark_nil : ¬HoldsMark [] := by decide

/-- A text without blanks does not hold the mark. -/
lemma not_holdsMark_of_blankless (h : ' ' ∉ xs) : ¬HoldsMark xs := by
  intro holds
  exact h (holds.subset (by decide))

/-- Nor does it with one blank behind it. -/
lemma not_holdsMark_word (h : ' ' ∉ xs) : ¬HoldsMark (xs ++ [' ']) := by
  intro holds
  rcases List.infix_concat_iff.mp holds with ⟨r, last⟩ | inside
  · have last : (r ++ hookMark).getLast? = some ' ' := by simp [last]
    have ends : hookMark.getLast? = some 'e' := by decide
    simp [List.getLast?_append, ends] at last
  · exact not_holdsMark_of_blankless h inside

/-! ### Pieces of a text -/

/-- A text that does not hold the mark and does not end within it. -/
def Sealed (cs : List Char) : Prop :=
  ¬HoldsMark cs ∧ ∀ front ∈ hookMark.inits, front ≠ [] → ¬front <:+ cs

instance (cs : List Char) : Decidable (Sealed cs) := inferInstanceAs (Decidable (_ ∧ _))

/-- A text that stands between two others and keeps the mark from reaching over. -/
def Separates : List Char → Prop
  | [] => False
  | c :: cs => c ∉ hookMark ∧ Sealed cs

instance : (cs : List Char) → Decidable (Separates cs)
  | [] => inferInstanceAs (Decidable False)
  | _ :: _ => inferInstanceAs (Decidable (_ ∧ _))

lemma Sealed.holdsMark_append (h : Sealed xs) : HoldsMark (xs ++ ys) ↔ HoldsMark ys := by
  obtain ⟨unmarked, ends⟩ := h
  constructor
  · intro holds
    rcases List.infix_append_iff.mp holds with inside | behind | ⟨front, back, cut, last, first⟩
    · exact absurd inside unmarked
    · exact behind
    · by_cases empty : front = []
      · rw [empty, List.nil_append] at cut
        rw [HoldsMark, cut]
        exact first.isInfix
      · exact absurd last (ends front ((List.mem_inits front hookMark).mpr ⟨back, cut.symm⟩) empty)
  · intro holds
    exact holds.trans (List.suffix_append xs ys).isInfix

lemma Separates.holdsMark_append {between : List Char} (h : Separates between) :
    HoldsMark (xs ++ (between ++ ys)) ↔ HoldsMark xs ∨ HoldsMark ys := by
  cases between with
  | nil => exact absurd h id
  | cons c between => rw [List.cons_append, holdsMark_append_cons h.1, h.2.holdsMark_append]

lemma Separates.holdsMark_append_self {between : List Char} (h : Separates between) :
    HoldsMark (xs ++ between) ↔ HoldsMark xs := by
  have cut : HoldsMark (xs ++ (between ++ [])) ↔ HoldsMark xs ∨ HoldsMark [] := h.holdsMark_append
  rwa [List.append_nil, or_iff_left not_holdsMark_nil] at cut

end Mark

section Texts

variable {front text between rest : String}

lemma holdsMark_sealed (h : Sealed front.toList) :
    HoldsMark (front ++ text).toList ↔ HoldsMark text.toList := by
  rw [String.toList_append, h.holdsMark_append]

lemma holdsMark_between (h : Separates between.toList) :
    HoldsMark (text ++ between ++ rest).toList ↔ HoldsMark text.toList ∨ HoldsMark rest.toList := by
  rw [String.toList_append, String.toList_append, List.append_assoc, h.holdsMark_append]

lemma holdsMark_before (h : Separates between.toList) :
    HoldsMark (text ++ between).toList ↔ HoldsMark text.toList := by
  rw [String.toList_append, h.holdsMark_append_self]

end Texts

/-! ### Joined texts -/

lemma hookCount_cut (before : String) (texts : List String) :
    hookCount ("\n".intercalate (before :: texts)) =
      hookCount before + (texts.map hookCount).sum := by
  induction texts generalizing before with
  | nil => simp
  | cons text texts ih =>
    have chars : ("\n".intercalate (before :: text :: texts)).toList =
        before.toList ++ '\n' :: ("\n".intercalate (text :: texts)).toList := by
      simp [String.intercalate_cons_cons]
    rw [hookCount_eq, chars, occurrences_append_cons (by decide) (by decide), ← hookCount_eq,
      ← hookCount_eq, ih, List.map_cons, List.sum_cons]

/-- Lines are counted one by one. -/
lemma hookCount_lines (texts : List String) :
    hookCount ("\n".intercalate texts) = (texts.map hookCount).sum := by
  cases texts with
  | nil => rfl
  | cons text texts => rw [hookCount_cut, List.map_cons, List.sum_cons]

lemma sum_hookCount_eq_zero_iff (texts : List String) :
    (texts.map hookCount).sum = 0 ↔ ¬∃ t ∈ texts, HoldsMark t.toList := by
  rw [List.sum_eq_zero_iff_forall_eq_nat]
  simp [hookCount_eq_zero_iff]

lemma holdsMark_intercalate {separator : String} (h : Separates separator.toList)
    (texts : List String) :
    HoldsMark (separator.intercalate texts).toList ↔ ∃ t ∈ texts, HoldsMark t.toList := by
  induction texts with
  | nil => simp [not_holdsMark_nil]
  | cons text texts ih =>
    cases texts with
    | nil => simp
    | cons next texts =>
      rw [String.intercalate_cons_cons, String.toList_append, String.toList_append,
        List.append_assoc, h.holdsMark_append, ih]
      simp

lemma holdsMark_splitLines (cs : List Char) :
    (∃ line ∈ splitLines cs, HoldsMark line) ↔ HoldsMark cs := by
  induction hn : cs.length using Nat.strong_induction_on generalizing cs with
  | _ n ih =>
    subst hn
    by_cases broken : '\n' ∈ cs
    · obtain ⟨before, behind, rfl, -⟩ := List.eq_append_cons_of_mem broken
      have first := ih before.length (by simp) before rfl
      have rest := ih behind.length (by simp; omega) behind rfl
      rw [holdsMark_append_cons (by decide), ← first, ← rest, splitLines, splitAtChar_append]
      simp [splitLines, or_and_right, exists_or]
    · simp [splitLines, splitAtChar_of_not_mem broken]

end CommandLine

end OperationHooks
