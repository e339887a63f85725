import Mathlib
import OperationHooks.GraphQL.Name

/-!
# ASCII characters

What holds of all ASCII characters is checked one by one; the characters of GraphQL names are among
them.
-/

namespace OperationHooks

/-- What holds of every code point below 128 holds of every ASCII character. -/
lemma forall_ascii {p : Char → Prop} (h : ∀ n < 128, p (Char.ofNat n)) {c : Char}
    (hc : c.toNat < 128) : p c := by
  rw [← Char.ofNat_toNat c]
  exact h c.toNat hc

lemma ascii_of_isNameContinue {c : Char} (h : isNameContinue c = true) : c.toNat < 128 := by
  have hn : c.toNat = c.val.toNat := rfl
  simp only [isNameContinue, isNameStart, Char.isAlpha, Char.isUpper, Char.isLower, Char.isDigit,
    Bool.or_eq_true, Bool.and_eq_true, decide_eq_true_eq, beq_iff_eq, ge_iff_le,
    UInt32.le_iff_toNat_le] at h
  rcases h with ((⟨-, h⟩ | ⟨-, h⟩) | rfl) | ⟨-, h⟩
  · exact Nat.lt_of_le_of_lt (hn ▸ h) (by decide)
  · exact Nat.lt_of_le_of_lt (hn ▸ h) (by decide)
  · decide
  · exact Nat.lt_of_le_of_lt (hn ▸ h) (by decide)

lemma isNameContinue_of_isNameStart {c : Char} (h : isNameStart c = true) :
    isNameContinue c = true := by
  rw [isNameContinue, h, Bool.true_or]

lemma isNameContinue_of_isAlphanum {c : Char} (h : c.isAlphanum = true) :
    isNameContinue c = true := by
  rw [Char.isAlphanum, Bool.or_eq_true] at h
  rcases h with letter | digit
  · simp [isNameContinue, isNameStart, letter]
  · simp [isNameContinue, digit]

lemma Name.isNameContinue_chars (n : Name) : ∀ c ∈ n.chars, isNameContinue c = true := by
  intro c hc
  rcases List.mem_cons.mp hc with rfl | hc
  · exact isNameContinue_of_isNameStart n.head_start
  · exact List.all_eq_true.mp n.tail_continue c hc

end OperationHooks
