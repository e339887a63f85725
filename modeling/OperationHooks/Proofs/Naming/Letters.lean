import OperationHooks.Proofs.Naming.Words

/-!
# What a converted name keeps

Apart from the case of its letters a converted name is the name without its underscores. So names
are converted to one name only if they differ in nothing but underscores and the case of letters,
and a converted name starts with what the name starts with behind its underscores.
-/

namespace OperationHooks

/-! ### Characters -/

lemma lower_ascii {cs : List Char} (h : ∀ c ∈ cs, c.toNat < 128) :
    lower cs = cs.map Char.toLower :=
  lowerAfter_ascii h []

lemma isDigit_toLower {c : Char} (h : isNameContinue c = true) : c.toLower.isDigit = c.isDigit :=
  forall_ascii (p := fun c => isNameContinue c = true → c.toLower.isDigit = c.isDigit)
    (by decide) (ascii_of_isNameContinue h) h

namespace Naming

variable {cs : List Char}

lemma isNameContinue_pascalChars (h : ∀ c ∈ cs, isNameContinue c = true) :
    ∀ c ∈ pascalChars cs, isNameContinue c = true :=
  fun c hc => isNameContinue_of_isAlphanum (isAlphanum_pascalChars h c hc)

/-! ### The front -/

/-- A converted name starts with the first character that is no underscore, in a case of its own. -/
lemma head?_pascalChars (h : ∀ c ∈ cs, isNameContinue c = true) :
    (pascalChars cs).head?.map Char.toLower = (cs.find? (· ≠ '_')).map Char.toLower := by
  rw [← List.head?_map, map_toLower_pascalChars h, List.head?_map, List.head?_filter]

lemma pascalChars_eq_nil_iff (h : ∀ c ∈ cs, isNameContinue c = true) :
    pascalChars cs = [] ↔ ∀ c ∈ cs, c = '_' := by
  rw [← List.map_eq_nil_iff (f := Char.toLower), map_toLower_pascalChars h, List.map_eq_nil_iff,
    List.filter_eq_nil_iff]
  simp

/-- A converted name starts with a digit if the name does behind its underscores. -/
lemma any_isDigit_head?_pascalChars (h : ∀ c ∈ cs, isNameContinue c = true) :
    (pascalChars cs).head?.any Char.isDigit = (cs.find? (· ≠ '_')).any Char.isDigit := by
  have small {o : Option Char} (ho : ∀ c ∈ o, isNameContinue c = true) :
      (o.map Char.toLower).any Char.isDigit = o.any Char.isDigit := by
    cases o with
    | none => rfl
    | some c => exact isDigit_toLower (ho c rfl)
  have front : ∀ c ∈ (pascalChars cs).head?, isNameContinue c = true := fun c hc =>
    isNameContinue_pascalChars h c (List.mem_of_mem_head? hc)
  have found : ∀ c ∈ cs.find? (· ≠ '_'), isNameContinue c = true := fun c hc =>
    h c (List.mem_of_find?_eq_some hc)
  rw [← small front, head?_pascalChars h, small found]

/-! ### The whole -/

lemma filter_lower (h : ∀ c ∈ cs, isNameContinue c = true) :
    (lower cs).filter (· ≠ '_') = (cs.filter (· ≠ '_')).map Char.toLower := by
  rw [lower_ascii fun c hc => ascii_of_isNameContinue (h c hc), filter_map_toLower h]

lemma lower_pascalChars (h : ∀ c ∈ cs, isNameContinue c = true) :
    lower (pascalChars cs) = (lower cs).filter (· ≠ '_') := by
  have ascii : ∀ c ∈ pascalChars cs, c.toNat < 128 := fun c hc =>
    ascii_of_isNameContinue (isNameContinue_pascalChars h c hc)
  rw [lower_ascii ascii, map_toLower_pascalChars h, filter_lower h]

/-- A converted name has no underscores, and in small letters it is the name in small letters
without its underscores. So names put around in the same way are converted to the same only if they
differ in nothing but underscores and the case of letters. -/
theorem pascal_keeps_letters {name : String} (h : ∀ c ∈ name.toList, isNameContinue c = true) :
    '_' ∉ (pascal name).toList ∧
      lower (pascal name).toList = (lower name.toList).filter (· ≠ '_') ∧
      ∀ other : String, (∀ c ∈ other.toList, isNameContinue c = true) →
        ∀ before after, affixed before other after = affixed before name after →
          (lower other.toList).filter (· ≠ '_') = (lower name.toList).filter (· ≠ '_') := by
  refine ⟨?_, ?_, ?_⟩
  · rw [pascal, String.toList_ofList]
    intro underscore
    exact absurd (isAlphanum_pascalChars h '_' underscore) (by decide)
  · rw [pascal, String.toList_ofList, lower_pascalChars h]
  · intro other h' before after same
    rw [affixed, affixed, String.append_left_inj, String.append_right_inj, pascal, pascal,
      String.ofList_inj] at same
    rw [← lower_pascalChars h', same, lower_pascalChars h]

/-- An acronym and a digit between underscores. -/
theorem pascal_keeps_letters_acronym :
    (∀ c ∈ "_getHTTP__2x".toList, isNameContinue c = true) ∧
      lower (pascal "_getHTTP__2x").toList = "gethttp2x".toList := by
  have h : ∀ c ∈ "_getHTTP__2x".toList, isNameContinue c = true := List.all_eq_true.mp rfl
  exact ⟨h, (pascal_keeps_letters h).2.1⟩

end Naming

end OperationHooks
