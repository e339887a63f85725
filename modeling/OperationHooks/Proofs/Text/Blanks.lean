import Mathlib.Data.List.DropRight
import OperationHooks.Proofs.Text.Stops
import OperationHooks.Text.Blank

/-!
# Blanks around a text

Stripping takes the blanks from both ends of a text and nothing else, so a text that is not blank is
what stripping leaves of it, with blanks around it.
-/

namespace OperationHooks

/-- There is nothing but blanks in a text. -/
def AllBlank (cs : List Char) : Prop := ∀ c ∈ cs, isBlankChar c = true

/-- A text that holds something and has no blank at either end. -/
structure Trimmed (cs : List Char) : Prop where
  nonempty : cs ≠ []
  starts : Stops isBlankChar cs
  ends : Stops isBlankChar cs.reverse

lemma allBlank_nil : AllBlank [] := fun _ h => absurd h List.not_mem_nil

lemma AllBlank.append {b b' : List Char} (h : AllBlank b) (h' : AllBlank b') :
    AllBlank (b ++ b') := by
  intro c hc
  exact (List.mem_append.mp hc).elim (h c) (h' c)

lemma AllBlank.reverse {b : List Char} (h : AllBlank b) : AllBlank b.reverse := by
  intro c hc
  exact h c (List.mem_reverse.mp hc)

lemma stops_append_of_ne_nil {p : Char → Bool} {xs : List Char} (ne : xs ≠ []) (rest : List Char) :
    Stops p (xs ++ rest) ↔ Stops p xs := by
  obtain ⟨x, xs, rfl⟩ := List.exists_cons_of_ne_nil ne
  exact Iff.rfl

lemma Trimmed.append {xs zs : List Char} (hx : Trimmed xs) (hz : Trimmed zs) (ys : List Char) :
    Trimmed (xs ++ ys ++ zs) := by
  refine ⟨?_, ?_, ?_⟩
  · simp [hx.nonempty]
  · rw [List.append_assoc, stops_append_of_ne_nil hx.nonempty]
    exact hx.starts
  · rw [List.reverse_append, stops_append_of_ne_nil (List.reverse_ne_nil_iff.mpr hz.nonempty)]
    exact hz.ends

/-- A text with blanks around it is stripped to the text. -/
lemma strip_around {b cs b' : List Char} (hb : AllBlank b) (h : Trimmed cs) (hb' : AllBlank b') :
    strip (b ++ cs ++ b') = cs := by
  have front : (b ++ (cs ++ b')).dropWhile isBlankChar = cs ++ b' :=
    (takeWhile_append_stops hb ((stops_append_of_ne_nil h.nonempty _).mpr h.starts)).2
  have back : (b'.reverse ++ cs.reverse).dropWhile isBlankChar = cs.reverse :=
    (takeWhile_append_stops hb'.reverse h.ends).2
  rw [strip, List.append_assoc, front, List.reverse_append, back, List.reverse_reverse]

/-- A text is what stripping leaves of it, with blanks around it. -/
lemma exists_blanks_around (cs : List Char) :
    ∃ b b', AllBlank b ∧ AllBlank b' ∧ cs = b ++ strip cs ++ b' := by
  refine ⟨cs.takeWhile isBlankChar, (cs.dropWhile isBlankChar).rtakeWhile isBlankChar,
    fun c => List.mem_takeWhile_imp, fun c => List.mem_rtakeWhile_imp, ?_⟩
  have back : strip cs = (cs.dropWhile isBlankChar).rdropWhile isBlankChar := rfl
  rw [back, List.append_assoc, List.rdropWhile_append_rtakeWhile,
    List.takeWhile_append_dropWhile]

lemma trimmed_strip {cs : List Char} (h : strip cs ≠ []) : Trimmed (strip cs) := by
  refine ⟨h, ?_, ?_⟩
  · obtain ⟨back, split⟩ : strip cs <+: cs.dropWhile isBlankChar := List.rdropWhile_prefix _ _
    rw [← stops_append_of_ne_nil h back, split]
    exact stops_dropWhile _ _
  · rw [strip, List.reverse_reverse]
    exact stops_dropWhile _ _

end OperationHooks
