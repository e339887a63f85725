import OperationHooks.GraphQL.Printer
import OperationHooks.Proofs.GraphQL.Strings

/-!
# Printed strings

What is printed between quotes is read up to the closing quote and no further, whatever stands
behind it. A text between triple quotes does not run into them: where it could, they stand on a
line of their own.
-/

namespace OperationHooks

/-! ### Between quotes -/

/-- A control character is written with four digits. -/
lemma exists_hexUpper {n : Nat} (h : n < 0x20 ∨ (0x7f ≤ n ∧ n < 0xa0)) :
    ∃ a b c d, (hexUpper 4 n).toList = [a, b, c, d] ∧ a ≠ '\x7b' ∧ hexQuad? a b c d = some n := by
  have digits : ∀ n < 0xa0, n < 0x20 ∨ 0x7f ≤ n → (hexUpper 4 n).toList.length = 4 ∧
      (hexUpper 4 n).toList.head? ≠ some '\x7b' ∧
      hexQuad? ((hexUpper 4 n).toList.getD 0 '0') ((hexUpper 4 n).toList.getD 1 '0')
        ((hexUpper 4 n).toList.getD 2 '0') ((hexUpper 4 n).toList.getD 3 '0') = some n := by
    decide +kernel
  obtain ⟨len, head, quad⟩ := digits n (by omega) (by omega)
  match hd : (hexUpper 4 n).toList, len with
  | [a, b, c, d], _ =>
    rw [hd] at head quad
    exact ⟨a, b, c, d, rfl, fun ha => head (congrArg some ha), quad⟩

/-- A character is written as an escape of one letter, with four digits, or as itself. -/
lemma quotedChar_cases (c : Char) :
    (∃ e, quotedChar c = ['\\', e] ∧ e ≠ 'u' ∧ e ≠ '\r' ∧ simpleEscape? e = some c) ∨
      (∃ x y z w, quotedChar c = ['\\', 'u', x, y, z, w] ∧ x ≠ '\x7b' ∧
        hexQuad? x y z w = some c.toNat) ∨
      (quotedChar c = [c] ∧ c ≠ '"' ∧ c ≠ '\\' ∧ isLineEnd c = false) := by
  by_cases hq : c = '"'
  · exact .inl ⟨'"', by rw [hq]; rfl, by decide, by decide, by rw [hq]; rfl⟩
  by_cases hb : c = '\\'
  · exact .inl ⟨'\\', by rw [hb]; rfl, by decide, by decide, by rw [hb]; rfl⟩
  by_cases h₈ : c = '\x08'
  · exact .inl ⟨'b', by rw [h₈]; rfl, by decide, by decide, by rw [h₈]; rfl⟩
  by_cases ht : c = '\t'
  · exact .inl ⟨'t', by rw [ht]; rfl, by decide, by decide, by rw [ht]; rfl⟩
  by_cases hn : c = '\n'
  · exact .inl ⟨'n', by rw [hn]; rfl, by decide, by decide, by rw [hn]; rfl⟩
  by_cases hf : c = '\x0c'
  · exact .inl ⟨'f', by rw [hf]; rfl, by decide, by decide, by rw [hf]; rfl⟩
  by_cases hr : c = '\r'
  · exact .inl ⟨'r', by rw [hr]; rfl, by decide, by decide, by rw [hr]; rfl⟩
  right
  rw [quotedChar, if_neg hq, if_neg hb, if_neg h₈, if_neg ht, if_neg hn, if_neg hf, if_neg hr]
  by_cases control : c.toNat < 0x20 ∨ (0x7f ≤ c.toNat ∧ c.toNat < 0xa0)
  · obtain ⟨x, y, z, w, hd, hx, quad⟩ := exists_hexUpper control
    exact .inl ⟨x, y, z, w, by rw [if_pos control, hd], hx, quad⟩
  · exact .inr ⟨if_neg control, hq, hb, by simp [isLineEnd, hn, hr]⟩

/-- What is written for a character between quotes is read as that character. -/
lemma inQuotes_quotedChar {r value rest : List Char} (c : Char) (h : InQuotes r value rest) :
    InQuotes (quotedChar c ++ r) (c :: value) rest := by
  obtain ⟨e, hw, hu, -, he⟩ | ⟨x, y, z, w, hw, hx, quad⟩ | ⟨hw, hq, hb, hl⟩ := quotedChar_cases c
  · rw [hw]
    refine .escape ?_ h
    show outcome (scanEscape ('\\' :: e :: r)) = some (c, r)
    rw [outcome_scanEscape_letter hu, he]
    rfl
  · rw [hw]
    refine .escape ?_ h
    show outcome (scanEscape ('\\' :: 'u' :: x :: y :: z :: w :: r)) = some (c, r)
    rw [outcome_scanEscape_digits hx, quad, Option.bind_some, scalar?_toNat]
  · rw [hw]
    exact .char hq hb hl h

lemma return_not_mem_quotedChar (c : Char) : '\r' ∉ quotedChar c := by
  obtain ⟨e, hw, -, he, -⟩ | ⟨x, y, z, w, hw, -, quad⟩ | ⟨hw, -, -, hl⟩ := quotedChar_cases c
  · rw [hw]
    simpa using Ne.symm he
  · rw [hw]
    intro h
    have hex := isSome_of_hexQuad? quad '\r' (by simpa using h)
    exact absurd hex (by decide)
  · rw [hw]
    intro h
    rw [← List.mem_singleton.mp h] at hl
    exact absurd hl (by decide)

/-- What is written for a character does not start with a quote. -/
lemma stops_quotedChar (c : Char) (r : List Char) : Stops (· == '"') (quotedChar c ++ r) := by
  obtain ⟨e, hw, -⟩ | ⟨x, y, z, w, hw, -⟩ | ⟨hw, hq, -⟩ := quotedChar_cases c
  · rw [hw]
    exact stops_cons.mpr (by decide)
  · rw [hw]
    exact stops_cons.mpr (by decide)
  · rw [hw]
    exact stops_cons.mpr (by simpa using hq)

/-- A string is read up to its closing quote. -/
lemma inQuotes_quoted (value rest : List Char) :
    InQuotes (value.flatMap quotedChar ++ '"' :: rest) value rest := by
  induction value with
  | nil => exact .close
  | cons c value ih =>
    rw [List.flatMap_cons, List.append_assoc]
    exact inQuotes_quotedChar c ih

/-! ### Between triple quotes -/

lemma escapeTriple_cons {c : Char} {text : List Char}
    (h : ¬(c = '"' ∧ ∃ r, text = '"' :: '"' :: r)) :
    escapeTriple (c :: text) = c :: escapeTriple text := by
  rw [escapeTriple]
  rintro r rfl rfl
  exact h ⟨rfl, r, rfl⟩

/-- Quotes in front of what is written stand in front of the text, if the text does not run into
quotes behind it. -/
lemma exists_of_escapeTriple_eq_append {w text rest x : List Char} (hw : ∀ c ∈ w, c = '"')
    (apart : Stops (· == '"') rest ∨ ∃ c ∈ text.getLast?, c ≠ '"')
    (h : escapeTriple text ++ rest = w ++ x) : ∃ x', text = w ++ x' := by
  induction w generalizing text with
  | nil => exact ⟨text, rfl⟩
  | cons q w ih =>
    have hq : q = '"' := hw q List.mem_cons_self
    subst hq
    have hw : ∀ c ∈ w, c = '"' := fun c hc => hw c (List.mem_cons_of_mem _ hc)
    cases text with
    | nil =>
      rcases apart with apart | ⟨c, hc, -⟩
      · rw [escapeTriple, List.nil_append] at h
        rw [h] at apart
        exact absurd (stops_cons.mp apart) (by decide)
      · cases hc
    | cons c text =>
      by_cases triple : c = '"' ∧ ∃ r, text = '"' :: '"' :: r
      · obtain ⟨rfl, r, rfl⟩ := triple
        rw [escapeTriple] at h
        exact absurd (List.cons.inj h).1 (by decide)
      · rw [escapeTriple_cons triple, List.cons_append, List.cons_append, List.cons.injEq] at h
        obtain ⟨rfl, h⟩ := h
        have apart : Stops (· == '"') rest ∨ ∃ c ∈ text.getLast?, c ≠ '"' := by
          refine apart.imp_right fun ⟨c, hc, hne⟩ => ?_
          cases text with
          | nil =>
            rw [List.getLast?_singleton, Option.mem_some_iff] at hc
            exact absurd hc.symm hne
          | cons d text =>
            rw [List.getLast?_cons_cons] at hc
            exact ⟨c, hc, hne⟩
        obtain ⟨x', rfl⟩ := ih hw apart h
        exact ⟨x', rfl⟩

/-- A text is read as it was before it was escaped, if it does not run into quotes behind it. -/
lemma inTripleQuotes_escapeTriple {text r raw rest : List Char} (hr : '\r' ∉ text)
    (apart : Stops (· == '"') r ∨ ∀ c ∈ text.getLast?, c ≠ '"' ∧ c ≠ '\\')
    (h : InTripleQuotes r raw rest) :
    InTripleQuotes (escapeTriple text ++ r) (text ++ raw) rest := by
  fun_induction escapeTriple text with
  | case1 text ih =>
    refine .escape (ih (by simpa using hr) (apart.imp_right fun last c hc => ?_))
    refine last c ?_
    cases text with
    | nil => cases hc
    | cons d text => simpa using hc
  | case2 c text triple ih =>
    rw [List.mem_cons, not_or] at hr
    have last : Stops (· == '"') r ∨ ∀ d ∈ text.getLast?, d ≠ '"' ∧ d ≠ '\\' := by
      refine apart.imp_right fun last d hd => ?_
      cases text with
      | nil => cases hd
      | cons e text => exact last d (by rw [List.getLast?_cons_cons]; exact hd)
    -- quotes behind a quote or a backslash that come from the text are told by the text
    have apart' (hc : c = '"' ∨ c = '\\') :
        Stops (· == '"') r ∨ ∃ d ∈ text.getLast?, d ≠ '"' := by
      refine apart.imp_right fun last => ?_
      cases text with
      | nil =>
        obtain ⟨hq, hb⟩ := last c (by simp)
        exact absurd hc (not_or.mpr ⟨hq, hb⟩)
      | cons e text =>
        have hd := List.getLast?_eq_some_getLast (List.cons_ne_nil e text)
        exact ⟨_, hd, (last _ (by rw [List.getLast?_cons_cons]; exact hd)).1⟩
    refine .char (Ne.symm hr.1) ?_ ?_ (ih hr.2 last)
    · rintro ⟨rfl, r', h'⟩
      obtain ⟨x, rfl⟩ := exists_of_escapeTriple_eq_append (w := ['"', '"']) (by simp)
        (apart' (.inl rfl)) h'
      exact triple x rfl rfl
    · rintro ⟨rfl, r', h'⟩
      obtain ⟨x, rfl⟩ := exists_of_escapeTriple_eq_append (w := ['"', '"', '"']) (by simp)
        (apart' (.inr rfl)) h'
      exact absurd (List.cons.inj h').1 (by decide)
  | case3 => exact h

lemma mem_of_mem_escapeTriple {c : Char} {text : List Char} (h : c ∈ escapeTriple text) :
    c = '\\' ∨ c ∈ text := by
  fun_induction escapeTriple text with
  | case1 text ih =>
    simp only [List.mem_cons] at h ⊢
    tauto
  | case2 d text _ ih =>
    rcases List.mem_cons.mp h with rfl | h
    · exact .inr List.mem_cons_self
    · exact (ih h).imp_right (List.mem_cons_of_mem d)
  | case3 => exact .inr h

lemma endsIn_singleton {text : List Char} {c : Char} (h : endsIn text [c] = false) :
    c ∉ text.getLast? := by
  intro hc
  rw [Option.mem_def, List.getLast?_eq_head?_reverse, List.head?_eq_some_iff] at hc
  obtain ⟨r, hr⟩ := hc
  simp [endsIn, hr] at h

/-- Where the closing quotes stand behind a text directly, it does not run into them. -/
lemma toList_blockQuoted (value : String) :
    ∃ front back : List Char, (front = [] ∨ front = ['\n']) ∧
      (back = ['\n'] ∨ back = [] ∧ ∀ c ∈ value.toList.getLast?, c ≠ '"' ∧ c ≠ '\\') ∧
      (blockQuoted value).toList = '"' :: '"' :: '"' ::
        (front ++ (escapeTriple value.toList ++ (back ++ ['"', '"', '"']))) := by
  unfold blockQuoted
  extract_lets text escaped lines single leading apart staysInLine before after
  refine ⟨before.toList, after.toList, ?_, ?_, ?_⟩
  · unfold before
    split
    · exact .inr rfl
    · exact .inl rfl
  · unfold after
    split
    · exact .inl rfl
    · rename_i h
      simp only [apart, Bool.or_eq_true, not_or, Bool.not_eq_true] at h
      obtain ⟨⟨⟨⟨-, hq⟩, hb⟩, -⟩, -⟩ := h
      refine .inr ⟨rfl, fun c hc => ⟨?_, ?_⟩⟩
      · rintro rfl
        exact endsIn_singleton hq hc
      · rintro rfl
        exact endsIn_singleton hb hc
  · have quotes : "\"\"\"".toList = ['"', '"', '"'] := rfl
    simp only [String.toList_append, String.toList_ofList, List.append_assoc, quotes,
      List.cons_append, List.nil_append]
    rfl

lemma return_not_mem_blockQuoted (value : BlockText) : '\r' ∉ (blockQuoted value.text).toList := by
  obtain ⟨front, back, hf, hb, h⟩ := toList_blockQuoted value.text
  have escaped : '\r' ∉ escapeTriple value.text.toList := by
    intro hr
    rcases mem_of_mem_escapeTriple hr with hr | hr
    · exact absurd hr (by decide)
    · exact value.no_return hr
  rw [h]
  rcases hf with rfl | rfl <;> rcases hb with rfl | ⟨rfl, -⟩ <;> simp [escaped]

/-- A text between triple quotes is read up to the closing ones. -/
lemma inTripleQuotes_blockQuoted (value : BlockText) :
    ∃ raw : BlockRaw, ∀ tail, ∃ r,
      (blockQuoted value.text).toList ++ tail = '"' :: '"' :: '"' :: r ∧
        InTripleQuotes r raw.1 tail := by
  obtain ⟨front, back, hf, hb, h⟩ := toList_blockQuoted value.text
  have newline {r raw rest : List Char} (h : InTripleQuotes r raw rest) :
      InTripleQuotes ('\n' :: r) ('\n' :: raw) rest :=
    .char (by decide) (by simp) (by simp) h
  have written : '\r' ∉ front ++ (value.text.toList ++ back) := by
    rcases hf with rfl | rfl <;> rcases hb with rfl | ⟨rfl, -⟩ <;> simp [value.no_return]
  refine ⟨⟨_, written⟩, fun tail => ⟨front ++ (escapeTriple value.text.toList ++
    (back ++ '"' :: '"' :: '"' :: tail)), by rw [h]; simp, ?_⟩⟩
  have closed : InTripleQuotes (escapeTriple value.text.toList ++
      (back ++ '"' :: '"' :: '"' :: tail)) (value.text.toList ++ back) tail := by
    rcases hb with rfl | ⟨rfl, last⟩
    · exact inTripleQuotes_escapeTriple value.no_return (.inl (stops_cons.mpr (by decide)))
        (newline .close)
    · exact inTripleQuotes_escapeTriple value.no_return (.inr last) .close
  rcases hf with rfl | rfl
  · exact closed
  · exact newline closed

end OperationHooks
