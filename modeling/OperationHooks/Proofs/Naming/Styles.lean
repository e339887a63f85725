import OperationHooks.Proofs.Naming.Words

/-!
# Styles of names

A list of words can be written with underscores, or with capitals, and then with a capital in front
or without one. Of words that are long enough all three are cut into the words again, so each is
converted to the other two; and different lists of words stay different.
-/

namespace OperationHooks

namespace Naming

/-! ### Styles -/

/-- A character of a word behind its first. -/
def isWordChar (c : Char) : Bool := c.isLower || c.isDigit

/-- A word of small letters and digits: two of them at least, and a letter in front. -/
structure IsWord (w : List Char) : Prop where
  starts : ∀ c ∈ w.head?, c.isLower = true
  small : ∀ c ∈ w, isWordChar c = true
  long : 2 ≤ w.length

/-- A word with its first letter capital. -/
def withCapital : List Char → List Char
  | [] => []
  | c :: w => c.toUpper :: w

@[simp] lemma withCapital_cons (c : Char) (w : List Char) :
    withCapital (c :: w) = c.toUpper :: w := rfl

/-- The ways in which words make a name. -/
inductive Style where
  | snake | camel | pascal

/-- The name that words make in a style. -/
def Style.spell : Style → List (List Char) → List Char
  | .snake, ws => ['_'].intercalate ws
  | .camel, [] => []
  | .camel, w :: ws => w ++ ws.flatMap withCapital
  | .pascal, ws => ws.flatMap withCapital

lemma Style.spell_snake_cons (w : List Char) (ws : List (List Char)) :
    Style.snake.spell (w :: ws) = w ++ ws.flatMap ('_' :: ·) := by
  induction ws generalizing w with
  | nil => simp [spell, List.intercalate]
  | cons v ws ih =>
    have rest := ih v
    simp only [spell, List.intercalate] at rest ⊢
    simp [rest]

/-! ### Characters -/

lemma not_isUpper_of_isWordChar {c : Char} (h : isWordChar c = true) : c.isUpper = false := by
  rcases Bool.or_eq_true _ _ ▸ h with small | digit
  · exact not_isUpper_of_isLower small
  · by_contra upper
    rw [not_isDigit_of_isUpper (by simpa using upper)] at digit
    cases digit

lemma isNameContinue_of_isWordChar {c : Char} (h : isWordChar c = true) :
    isNameContinue c = true := by
  rcases Bool.or_eq_true _ _ ▸ h with small | digit
  · exact isNameContinue_of_isLower small
  · simp [isNameContinue, digit]

lemma toLower_of_isWordChar {c : Char} (h : isWordChar c = true) : c.toLower = c :=
  forall_ascii (p := fun c => isWordChar c = true → c.toLower = c) (by decide)
    (ascii_of_isNameContinue (isNameContinue_of_isWordChar h)) h

lemma map_toLower_of_isWordChar {w : List Char} (small : ∀ c ∈ w, isWordChar c = true) :
    w.map Char.toLower = w :=
  (List.map_congr_left fun c hc => toLower_of_isWordChar (small c hc)).trans (List.map_id' w)

/-- A word is a small letter with more characters behind it. -/
lemma IsWord.exists_cons {w : List Char} (h : IsWord w) :
    ∃ c r, w = c :: r ∧ c.isLower = true ∧ r ≠ [] ∧ ∀ d ∈ r, isWordChar d = true := by
  match w, h with
  | c :: b :: r, h => exact ⟨c, b :: r, rfl, h.starts c rfl, by simp,
      fun d hd => h.small d (List.mem_cons_of_mem _ hd)⟩
  | [c], h => exact absurd h.long (by simp)
  | [], h => exact absurd h.long (by simp)

lemma IsWord.underscore_not_mem {w : List Char} (h : IsWord w) : '_' ∉ w :=
  fun hu => absurd (h.small '_' hu) (by decide)

lemma map_toLower_withCapital {w : List Char} (h : IsWord w) :
    (withCapital w).map Char.toLower = w := by
  obtain ⟨c, r, rfl, hc, -, small⟩ := h.exists_cons
  rw [withCapital, List.map_cons, map_toLower_of_isWordChar small,
    toLower_toUpper (isNameContinue_of_isLower hc), toLower_of_isLower hc]

lemma capitalize_eq_withCapital {w : List Char} (h : IsWord w) :
    capitalize w = withCapital w := by
  obtain ⟨c, r, rfl, -, -, small⟩ := h.exists_cons
  rw [capitalize_ascii fun d hd => ascii_of_isNameContinue
    (isNameContinue_of_isWordChar (h.small d hd)), map_toLower_of_isWordChar small, withCapital]

/-! ### Cutting -/

lemma splitWords_of_not_isUpper {a : Char} {r : List Char} (h : ∀ c ∈ r, c.isUpper = false) :
    splitWords (a :: r) = a :: r := by
  induction r generalizing a with
  | nil => rfl
  | cons b r ih =>
    have inside : startsWord a b r = false := by
      rw [startsWord, h b List.mem_cons_self, Bool.false_and]
    rw [splitWords, inside, ih fun c hc => h c (List.mem_cons_of_mem _ hc)]
    rfl

/-- A capital behind a word starts the next one, and nothing is cut before. -/
lemma splitWords_capital {a u : Char} {r rest : List Char} (ne : r ≠ [])
    (small : ∀ c ∈ r, isWordChar c = true) (hu : u.isUpper = true) :
    splitWords (a :: (r ++ u :: rest)) = a :: (r ++ '_' :: splitWords (u :: rest)) := by
  induction r generalizing a with
  | nil => exact absurd rfl ne
  | cons b r ih =>
    have hb := small b List.mem_cons_self
    have inside : startsWord a b (r ++ u :: rest) = false := by
      rw [startsWord, not_isUpper_of_isWordChar hb, Bool.false_and]
    rw [List.cons_append, splitWords, inside, List.cons_append]
    cases r with
    | nil =>
      have starts : startsWord b u rest = true := by
        rw [startsWord, hu, ← isWordChar, hb]
        rfl
      rw [List.nil_append, splitWords, starts]
      rfl
    | cons d r =>
      rw [ih (by simp) fun c hc => small c (List.mem_cons_of_mem _ hc)]
      rfl

/-- Words with capitals are cut before each capital. -/
lemma splitWords_withCapital {ws : List (List Char)} (hws : ∀ w ∈ ws, IsWord w) {a : Char}
    {r : List Char} (ne : r ≠ []) (small : ∀ c ∈ r, isWordChar c = true) :
    splitWords (a :: (r ++ ws.flatMap withCapital)) =
      a :: (r ++ ws.flatMap ('_' :: withCapital ·)) := by
  induction ws generalizing a r with
  | nil =>
    simpa using splitWords_of_not_isUpper fun c hc => not_isUpper_of_isWordChar (small c hc)
  | cons w ws ih =>
    obtain ⟨c, s, rfl, hc, ne', small'⟩ := (hws w List.mem_cons_self).exists_cons
    have rest := ih (fun v hv => hws v (List.mem_cons_of_mem _ hv)) (a := c.toUpper) ne' small'
    simp only [List.flatMap_cons, withCapital_cons, List.cons_append]
    rw [splitWords_capital ne small (isUpper_toUpper hc), rest]

/-! ### Names -/

variable {ws : List (List Char)}

lemma mem_spell_snake (hws : ∀ w ∈ ws, IsWord w) {c : Char} (hc : c ∈ Style.snake.spell ws) :
    isWordChar c = true ∨ c = '_' := by
  cases ws with
  | nil => cases hc
  | cons v ws =>
    rw [Style.spell_snake_cons] at hc
    rcases List.mem_append.mp hc with hc | hc
    · exact .inl ((hws v List.mem_cons_self).small c hc)
    · obtain ⟨w, hw, hc⟩ := List.mem_flatMap.mp hc
      rcases List.mem_cons.mp hc with rfl | hc
      · exact .inr rfl
      · exact .inl ((hws w (List.mem_cons_of_mem _ hw)).small c hc)

lemma isNameContinue_withCapital {w : List Char} (h : IsWord w) :
    ∀ c ∈ withCapital w, isNameContinue c = true := by
  obtain ⟨c, r, rfl, hc, -, small⟩ := h.exists_cons
  intro d hd
  rcases List.mem_cons.mp hd with rfl | hd
  · exact isNameContinue_of_isUpper (isUpper_toUpper hc)
  · exact isNameContinue_of_isWordChar (small d hd)

lemma Style.isNameContinue_spell (hws : ∀ w ∈ ws, IsWord w) (style : Style) :
    ∀ c ∈ style.spell ws, isNameContinue c = true := by
  intro c hc
  cases style with
  | snake =>
    rcases mem_spell_snake hws hc with hc | rfl
    · exact isNameContinue_of_isWordChar hc
    · rfl
  | camel =>
    cases ws with
    | nil => cases hc
    | cons v ws =>
      rcases List.mem_append.mp hc with hc | hc
      · exact isNameContinue_of_isWordChar ((hws v List.mem_cons_self).small c hc)
      · obtain ⟨w, hw, hc⟩ := List.mem_flatMap.mp hc
        exact isNameContinue_withCapital (hws w (List.mem_cons_of_mem _ hw)) c hc
  | pascal =>
    obtain ⟨w, hw, hc⟩ := List.mem_flatMap.mp hc
    exact isNameContinue_withCapital (hws w hw) c hc

/-- A name with underscores is neither cut nor changed. -/
lemma snakeChars_spell_snake (hws : ∀ w ∈ ws, IsWord w) :
    snakeChars (Style.snake.spell ws) = Style.snake.spell ws := by
  have uncut : splitWords (Style.snake.spell ws) = Style.snake.spell ws := by
    have noCapital : ∀ c ∈ Style.snake.spell ws, c.isUpper = false := by
      intro c hc
      rcases mem_spell_snake hws hc with hc | rfl
      · exact not_isUpper_of_isWordChar hc
      · rfl
    cases name : Style.snake.spell ws with
    | nil => rfl
    | cons a r =>
      exact splitWords_of_not_isUpper fun c hc => noCapital c (name ▸ List.mem_cons_of_mem _ hc)
  rw [snakeChars_eq (Style.isNameContinue_spell hws .snake), uncut]
  refine (List.map_congr_left fun c hc => ?_).trans (List.map_id' _)
  rcases mem_spell_snake hws hc with hc | rfl
  · exact toLower_of_isWordChar hc
  · rfl

lemma map_toLower_flatMap (hws : ∀ w ∈ ws, IsWord w) :
    (ws.flatMap ('_' :: withCapital ·)).map Char.toLower = ws.flatMap ('_' :: ·) := by
  rw [List.map_flatMap]
  refine List.flatMap_congr fun w hw => ?_
  rw [List.map_cons, map_toLower_withCapital (hws w hw)]
  rfl

/-- In each style a name is cut into its words. -/
lemma snakeChars_spell (hws : ∀ w ∈ ws, IsWord w) (style : Style) :
    snakeChars (style.spell ws) = Style.snake.spell ws := by
  cases ws with
  | nil =>
    have nothing : snakeChars [] = [] := by
      simp [snakeChars, splitCapitalized, splitCamel, lower, lowerAfter]
    cases style <;> exact nothing
  | cons w ws =>
    have hrest : ∀ v ∈ ws, IsWord v := fun v hv => hws v (List.mem_cons_of_mem _ hv)
    obtain ⟨c, r, rfl, hc, ne, small⟩ := (hws w List.mem_cons_self).exists_cons
    cases style with
    | snake => exact snakeChars_spell_snake hws
    | camel =>
      rw [snakeChars_eq (Style.isNameContinue_spell hws .camel), Style.spell_snake_cons,
        Style.spell, List.cons_append, splitWords_withCapital hrest ne small, List.map_cons,
        List.map_append, map_toLower_flatMap hrest, map_toLower_of_isWordChar small,
        toLower_of_isLower hc]
      rfl
    | pascal =>
      rw [snakeChars_eq (Style.isNameContinue_spell hws .pascal), Style.spell_snake_cons,
        Style.spell, List.flatMap_cons, withCapital_cons, List.cons_append,
        splitWords_withCapital hrest ne small, List.map_cons, List.map_append,
        map_toLower_flatMap hrest, map_toLower_of_isWordChar small,
        toLower_toUpper (isNameContinue_of_isLower hc), toLower_of_isLower hc]
      rfl

/-- Words with underscores between them are put together with capitals. -/
lemma joinCapitalized_spell_snake (hws : ∀ w ∈ ws, IsWord w) :
    joinCapitalized (Style.snake.spell ws) = Style.pascal.spell ws := by
  cases ws with
  | nil => rfl
  | cons w ws =>
    rw [Style.spell_snake_cons, Style.spell, List.flatMap_cons]
    induction ws generalizing w with
    | nil =>
      have hw := hws w List.mem_cons_self
      simp [joinCapitalized_word hw.underscore_not_mem, capitalize_eq_withCapital hw]
    | cons v ws ih =>
      have hw := hws w List.mem_cons_self
      rw [List.flatMap_cons, List.cons_append, joinCapitalized_append,
        joinCapitalized_word hw.underscore_not_mem, capitalize_eq_withCapital hw,
        ih v fun x hx => hws x (List.mem_cons_of_mem _ hx), List.flatMap_cons]

lemma pascalChars_spell (hws : ∀ w ∈ ws, IsWord w) (style : Style) :
    pascalChars (style.spell ws) = Style.pascal.spell ws := by
  rw [pascalChars, snakeChars_spell hws, ← joinCapitalized, joinCapitalized_spell_snake hws]

/-- Words of two characters at least are recovered from a name in any style: the name is converted
to the words with underscores between them, and to the words with a capital each. In particular a
name with capitals is converted to itself, and names with underscores are converted to the same name
only if they are the same. -/
theorem words_recovered {ws : List (List Char)} (hws : ∀ w ∈ ws, IsWord w) :
    (∀ style : Style,
      snake (String.ofList (style.spell ws)) = String.ofList (Style.snake.spell ws) ∧
        pascal (String.ofList (style.spell ws)) = String.ofList (Style.pascal.spell ws)) ∧
    ∀ vs, (∀ v ∈ vs, IsWord v) →
      pascal (String.ofList (Style.snake.spell vs)) =
        pascal (String.ofList (Style.snake.spell ws)) →
      String.ofList (Style.snake.spell vs) = String.ofList (Style.snake.spell ws) := by
  have converted {us : List (List Char)} (hus : ∀ u ∈ us, IsWord u) (style : Style) :
      pascal (String.ofList (style.spell us)) = String.ofList (Style.pascal.spell us) := by
    rw [pascal, String.toList_ofList, pascalChars_spell hus]
  refine ⟨fun style => ⟨?_, converted hws style⟩, fun vs hvs same => ?_⟩
  · rw [snake, String.toList_ofList, snakeChars_spell hws]
  · rw [converted hvs, converted hws, String.ofList_inj] at same
    rw [← snakeChars_spell hvs .pascal, same, snakeChars_spell hws]

/-- Words that end in digits, one of them at the front. -/
theorem words_recovered_digits :
    let ws := [['a', '1'], ['b', 'c'], ['d', '2', '3']]
    (∀ w ∈ ws, IsWord w) ∧ snake "A1BcD23" = "a1_bc_d23" ∧ snake "a1BcD23" = "a1_bc_d23" ∧
      pascal "a1_bc_d23" = "A1BcD23" := by
  intro ws
  have hws : ∀ w ∈ ws, IsWord w := by
    intro w hw
    simp only [ws, List.mem_cons, List.not_mem_nil, or_false] at hw
    rcases hw with rfl | rfl | rfl <;>
      exact ⟨fun c hc => by cases hc; rfl, List.all_eq_true.mp rfl, by decide⟩
  obtain ⟨styles, -⟩ := words_recovered hws
  exact ⟨hws, (styles .pascal).1, (styles .camel).1, (styles .snake).2⟩

end Naming

end OperationHooks
