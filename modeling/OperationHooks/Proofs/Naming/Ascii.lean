import Mathlib.Tactic.Common
import OperationHooks.Compilation
import OperationHooks.Proofs.Text.Ascii

/-!
# Names that stay in ASCII

A GraphQL name is written in ASCII letters, digits and underscores. Converted, it is written in
letters and digits, and it does not start with a small letter.
-/

namespace OperationHooks

/-! ### Characters -/

lemma isNameContinue_toLower {c : Char} (h : isNameContinue c = true) :
    isNameContinue c.toLower = true :=
  forall_ascii (p := fun c => isNameContinue c = true → isNameContinue c.toLower = true)
    (by decide) (ascii_of_isNameContinue h) h

lemma isAlphanum_toLower {c : Char} (h : isNameContinue c = true) (hu : c ≠ '_') :
    c.toLower.isAlphanum = true :=
  forall_ascii (p := fun c => isNameContinue c = true → c ≠ '_' → c.toLower.isAlphanum = true)
    (by decide) (ascii_of_isNameContinue h) h hu

lemma isAlphanum_toUpper {c : Char} (h : isNameContinue c = true) (hu : c ≠ '_') :
    c.toUpper.isAlphanum = true :=
  forall_ascii (p := fun c => isNameContinue c = true → c ≠ '_' → c.toUpper.isAlphanum = true)
    (by decide) (ascii_of_isNameContinue h) h hu

lemma not_isLower_toUpper {c : Char} (h : isNameContinue c = true) :
    c.toUpper.isLower = false :=
  forall_ascii (p := fun c => isNameContinue c = true → c.toUpper.isLower = false)
    (by decide) (ascii_of_isNameContinue h) h

/-! ### Small letters and capitals -/

/-- Among ASCII characters no neighbour decides about a small form. -/
lemma lowerAfter_ascii {cs : List Char} (h : ∀ c ∈ cs, c.toNat < 128) (before : List Char) :
    lowerAfter before cs = cs.map Char.toLower := by
  induction cs generalizing before with
  | nil => rfl
  | cons c cs ih =>
    have hc : c.toNat < 128 := h c List.mem_cons_self
    have hs : c ≠ capitalSigma := by
      rintro rfl
      exact absurd hc (by decide)
    rw [lowerAfter, if_neg hs, smallForm, if_pos hc, List.map_cons,
      ih fun d hd => h d (List.mem_cons_of_mem _ hd)]
    rfl

lemma capitalize_ascii {c : Char} {cs : List Char} (h : ∀ d ∈ c :: cs, d.toNat < 128) :
    capitalize (c :: cs) = c.toUpper :: cs.map Char.toLower := by
  rw [capitalize, titleForm, if_pos (h c List.mem_cons_self),
    lowerAfter_ascii fun d hd => h d (List.mem_cons_of_mem _ hd)]
  rfl

namespace Naming

/-! ### Words -/

lemma mem_splitCapitalized {c : Char} {cs : List Char} (h : c ∈ splitCapitalized cs) :
    c = '_' ∨ c ∈ cs := by
  fun_induction splitCapitalized cs with
  | case1 d u l r hd ih =>
    simp only [List.mem_cons, List.mem_append] at h ⊢
    rcases h with h | h | h | h | h | h
    · tauto
    · tauto
    · tauto
    · tauto
    · exact .inr (.inr (.inr (.inr ((List.takeWhile_sublist _).subset h))))
    · rcases ih h with h | h
      · exact .inl h
      · exact .inr (.inr (.inr (.inr ((List.dropWhile_sublist _).subset h))))
  | case2 d u l r hd ih =>
    rcases List.mem_cons.mp h with rfl | h
    · simp
    · exact (ih h).imp_right (List.mem_cons_of_mem _)
  | case3 cs => exact .inr h

lemma mem_splitCamel {c : Char} {cs : List Char} (h : c ∈ splitCamel cs) : c = '_' ∨ c ∈ cs := by
  fun_induction splitCamel cs with
  | case1 d e r hd ih =>
    rcases List.mem_cons.mp h with rfl | h
    · simp
    · rcases List.mem_cons.mp h with rfl | h
      · exact .inl rfl
      · exact (ih h).imp_right (List.mem_cons_of_mem _)
  | case2 d e r hd ih =>
    rcases List.mem_cons.mp h with rfl | h
    · simp
    · exact (ih h).imp_right (List.mem_cons_of_mem _)
  | case3 cs => exact .inr h

/-- Cutting a name into words keeps it a text of letters, digits and underscores. -/
lemma isNameContinue_snakeChars {cs : List Char} (h : ∀ c ∈ cs, isNameContinue c = true) :
    ∀ c ∈ snakeChars cs, isNameContinue c = true := by
  have words : ∀ c ∈ splitCamel (splitCapitalized cs), isNameContinue c = true := by
    intro c hc
    rcases mem_splitCamel hc with rfl | hc
    · decide
    · rcases mem_splitCapitalized hc with rfl | hc
      · decide
      · exact h c hc
  intro c hc
  rw [snakeChars, lower, lowerAfter_ascii fun d hd => ascii_of_isNameContinue (words d hd)] at hc
  obtain ⟨d, hd, rfl⟩ := List.mem_map.mp hc
  exact isNameContinue_toLower (words d hd)

/-! ### Converted names -/

/-- A word of letters and digits put down with a capital. -/
lemma capitalize_word {l : List Char} (h : ∀ c ∈ l, isNameContinue c = true ∧ c ≠ '_') :
    (∀ c ∈ capitalize l, c.isAlphanum = true) ∧ ∀ c ∈ (capitalize l).head?, c.isLower = false := by
  cases l with
  | nil => simp [capitalize]
  | cons c l =>
    rw [capitalize_ascii fun d hd => ascii_of_isNameContinue (h d hd).1]
    obtain ⟨hc, hu⟩ := h c List.mem_cons_self
    constructor
    · intro d hd
      rcases List.mem_cons.mp hd with rfl | hd
      · exact isAlphanum_toUpper hc hu
      · obtain ⟨e, he, rfl⟩ := List.mem_map.mp hd
        obtain ⟨he, hu⟩ := h e (List.mem_cons_of_mem _ he)
        exact isAlphanum_toLower he hu
    · rintro d ⟨⟩
      exact not_isLower_toUpper hc

lemma word_of_mem_splitAtChar {cs l : List Char} (h : ∀ c ∈ cs, isNameContinue c = true)
    (hl : l ∈ splitAtChar '_' (snakeChars cs)) : ∀ c ∈ l, isNameContinue c = true ∧ c ≠ '_' := by
  intro c hc
  refine ⟨isNameContinue_snakeChars h c (mem_of_mem_splitAtChar hl hc), ?_⟩
  rintro rfl
  exact not_mem_of_mem_splitAtChar hl hc

/-- A converted name is made of ASCII letters and digits. -/
lemma isAlphanum_pascalChars {cs : List Char} (h : ∀ c ∈ cs, isNameContinue c = true) :
    ∀ c ∈ pascalChars cs, c.isAlphanum = true := by
  intro c hc
  obtain ⟨l, hl, hc⟩ := List.mem_flatMap.mp hc
  exact (capitalize_word (word_of_mem_splitAtChar h hl)).1 c hc

lemma head?_flatMap {α β : Type} {p : β → Prop} {f : α → List β} {xs : List α}
    (h : ∀ x ∈ xs, ∀ y ∈ (f x).head?, p y) : ∀ y ∈ (xs.flatMap f).head?, p y := by
  induction xs with
  | nil => simp
  | cons x xs ih =>
    rw [List.flatMap_cons]
    cases hx : f x with
    | nil => exact ih fun z hz => h z (List.mem_cons_of_mem _ hz)
    | cons y ys =>
      rintro z ⟨⟩
      exact h x List.mem_cons_self y (by rw [hx]; rfl)

/-- A converted name does not start with a small letter. -/
lemma not_isLower_head?_pascalChars {cs : List Char} (h : ∀ c ∈ cs, isNameContinue c = true) :
    ∀ c ∈ (pascalChars cs).head?, c.isLower = false :=
  head?_flatMap fun _ hl => (capitalize_word (word_of_mem_splitAtChar h hl)).2

end Naming

/-! ### Names of documents -/

lemma Compiler.isNameContinue_operationName (o : Operation) :
    ∀ c ∈ (operationName o).toList, isNameContinue c = true := by
  cases h : o.name? with
  | none => simp [operationName, h]
  | some n =>
    rw [operationName, h, Option.map_some, Option.getD_some, Name.toList_text]
    exact n.isNameContinue_chars

end OperationHooks
