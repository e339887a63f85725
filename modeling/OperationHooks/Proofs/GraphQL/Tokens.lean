import OperationHooks.Proofs.GraphQL.Numbers
import OperationHooks.Proofs.GraphQL.Strings
import OperationHooks.Proofs.Text.Ascii

/-!
# Scanning tokens

What a token is taken from, for each kind of token, and the tokens of a text told by the first of
them.
-/

namespace OperationHooks

/-! ### Tokens -/

/-- What tokens are taken from: a text starts with a token, and this is what stands behind it. -/
inductive Takes : List Char → Token → List Char → Prop where
  | block {r rest : List Char} {raw : BlockRaw} (h : outcome (scanBlock r) = some (raw, rest)) :
    Takes ('"' :: '"' :: '"' :: r) (.block (.ofRaw raw)) rest
  | string {r rest value : List Char} (single : ¬∃ r', r = '"' :: '"' :: r')
      (h : InQuotes r value rest) : Takes ('"' :: r) (.string (String.ofList value)) rest
  | spread {rest : List Char} : Takes ('.' :: '.' :: '.' :: rest) (.mark .spread) rest
  | mark {c : Char} {rest : List Char} {p : Punctuator} (h : Punctuator.ofChar? c = some p) :
    Takes (c :: rest) (.mark p) rest
  | number {n : Number} {rest : List Char} (h : Stops isNumberContinue rest) :
    Takes (n.chars ++ rest) (.number n) rest
  | name {n : Name} {rest : List Char} (h : Stops isNameContinue rest) :
    Takes (n.chars ++ rest) (.name n) rest

/-! Each kind of token is told by the characters that it starts with. -/

lemma outcome_scanToken_block (r : List Char) :
    outcome (scanToken '"' ('"' :: '"' :: r)) =
      (outcome (scanBlock r)).bind fun p => some (.block (.ofRaw p.1), p.2) := by
  rw [scanToken]
  exact outcome_bind fun raw r' h => rfl

lemma outcome_scanToken_string {r : List Char} (single : ¬∃ r', r = '"' :: '"' :: r') :
    outcome (scanToken '"' r) =
      (outcome (scanString r)).bind fun p => some (.string (String.ofList p.1), p.2) := by
  rw [scanToken]
  · exact outcome_bind fun value r' h => rfl
  · exact fun r' h => single ⟨r', h⟩

/-- A character that starts neither a string nor dots, and is no single quote. -/
def isPlainStart (c : Char) : Prop := c ≠ '"' ∧ c ≠ '.' ∧ c ≠ '\''

lemma scanToken_plain {c : Char} (hc : isPlainStart c) (r : List Char) :
    scanToken c r =
      match Punctuator.ofChar? c with
      | some p => .ok (.mark p, (NoLonger.all r).behind c)
      | none =>
        if c.isDigit ∨ c = '-' then do
          let ⟨n, rest⟩ ← scanNumber (c :: r)
          return (.number n, rest)
        else if h : isNameStart c then
          let ⟨n, rest⟩ := Name.scan c h r
          .ok (.name n, rest)
        else .error ⟨.character c, r.length + 1⟩ := by
  obtain ⟨hq, hd, hs⟩ := hc
  unfold scanToken
  split
  · exact absurd rfl hq
  · exact absurd rfl hq
  · exact absurd rfl hd
  · exact absurd rfl hd
  · exact absurd rfl hd
  · exact absurd rfl hs
  · rfl

lemma outcome_scanToken_mark {c : Char} {p : Punctuator} (h : Punctuator.ofChar? c = some p)
    (r : List Char) : outcome (scanToken c r) = some (.mark p, r) := by
  have plain : isPlainStart c := by
    refine ⟨?_, ?_, ?_⟩ <;> rintro rfl <;> exact absurd h (by cases p <;> decide)
  rw [scanToken_plain plain, h]
  rfl

lemma outcome_scanToken_number {c : Char} (hc : c.isDigit = true ∨ c = '-') (r : List Char) :
    outcome (scanToken c r) =
      (outcome (scanNumber (c :: r))).bind fun p => some (.number p.1, p.2) := by
  have plain : isPlainStart c ∧ Punctuator.ofChar? c = none := by
    rcases hc with hc | rfl
    · refine forall_ascii (p := fun c => c.isDigit = true → isPlainStart c ∧
        Punctuator.ofChar? c = none) ?_ (ascii_of_isNameContinue ?_) hc
      · simp only [isPlainStart]
        decide
      · rw [isNameContinue, hc, Bool.or_true]
    · simp only [isPlainStart]
      decide
  rw [scanToken_plain plain.1, plain.2]
  dsimp only
  rw [if_pos hc]
  exact outcome_bind fun n r' h => rfl

lemma Name.scan_append (n : Name) {rest : List Char} (h : Stops isNameContinue rest) :
    (Name.scan n.head n.head_start (n.tail ++ rest)).1 = n ∧
      (Name.scan n.head n.head_start (n.tail ++ rest)).2.1 = rest := by
  obtain ⟨ht, hd⟩ := takeWhile_append_stops (List.all_eq_true.mp n.tail_continue) h
  constructor
  · simp only [Name.scan, ht]
  · simp only [Name.scan, hd]

lemma outcome_scanToken_name {c : Char} (hc : isNameStart c = true) (r : List Char) :
    outcome (scanToken c r) = some (.name (Name.scan c hc r).1, (Name.scan c hc r).2.1) := by
  have plain : (isPlainStart c ∧ Punctuator.ofChar? c = none) ∧ ¬(c.isDigit = true ∨ c = '-') := by
    refine forall_ascii (p := fun c => isNameStart c = true → (isPlainStart c ∧
      Punctuator.ofChar? c = none) ∧ ¬(c.isDigit = true ∨ c = '-')) ?_ ?_ hc
    · simp only [isPlainStart]
      decide
    · exact ascii_of_isNameContinue (isNameContinue_of_isNameStart hc)
  rw [scanToken_plain plain.1.1, plain.1.2]
  dsimp only
  rw [if_neg plain.2, dif_pos hc]
  rfl

/-- Two dots or one are no token. -/
lemma outcome_scanToken_dots {r : List Char} (h : ¬∃ r', r = '.' :: '.' :: r') :
    outcome (scanToken '.' r) = none := by
  match r with
  | [] => rfl
  | a :: r =>
    by_cases ha : a = '.'
    · subst ha
      rw [scanToken]
      · rfl
      · rintro r' rfl
        exact h ⟨r', rfl⟩
    · rw [scanToken]
      · split <;> rfl
      · rintro r' h'
        exact ha (List.cons.inj h').1
      · rintro r' h'
        exact ha (List.cons.inj h').1

/-- Scanners take what tokens are taken from, and nothing else. -/
lemma outcome_scanToken {c : Char} {r rest : List Char} {t : Token} :
    outcome (scanToken c r) = some (t, rest) ↔ Takes (c :: r) t rest := by
  constructor
  · intro h
    by_cases hq : c = '"'
    · subst hq
      by_cases triple : ∃ r', r = '"' :: '"' :: r'
      · obtain ⟨r', rfl⟩ := triple
        rw [outcome_scanToken_block] at h
        obtain ⟨⟨raw, r₁⟩, hb, h⟩ := Option.bind_eq_some_iff.mp h
        cases h
        exact .block hb
      · rw [outcome_scanToken_string triple] at h
        obtain ⟨⟨value, r₁⟩, hs, h⟩ := Option.bind_eq_some_iff.mp h
        cases h
        exact .string triple (outcome_scanString.mp hs)
    by_cases hd : c = '.'
    · subst hd
      by_cases dots : ∃ r', r = '.' :: '.' :: r'
      · obtain ⟨r', rfl⟩ := dots
        cases h
        exact .spread
      · rw [outcome_scanToken_dots dots] at h
        cases h
    by_cases hs : c = '\''
    · subst hs
      cases h
    cases hp : Punctuator.ofChar? c with
    | some p =>
      rw [outcome_scanToken_mark hp] at h
      cases h
      exact .mark hp
    | none =>
      by_cases hc : c.isDigit = true ∨ c = '-'
      · rw [outcome_scanToken_number hc] at h
        obtain ⟨⟨n, r'⟩, hn, h⟩ := Option.bind_eq_some_iff.mp h
        cases h
        obtain ⟨hn, stop⟩ := outcome_scanNumber.mp hn
        rw [hn]
        exact .number stop
      · by_cases hn : isNameStart c = true
        · rw [outcome_scanToken_name hn] at h
          cases h
          have written : c :: r = (Name.scan c hn r).1.chars ++ (Name.scan c hn r).2.1 := by
            simp [Name.scan, Name.chars]
          have takes := @Takes.name (Name.scan c hn r).1 (Name.scan c hn r).2.1
            (stops_dropWhile isNameContinue r)
          rwa [← written] at takes
        · rw [scanToken_plain ⟨hq, hd, hs⟩, hp] at h
          dsimp only at h
          rw [if_neg hc, dif_neg hn] at h
          cases h
  · intro h
    obtain ⟨cs, hcs⟩ : ∃ cs, cs = c :: r := ⟨_, rfl⟩
    rw [← hcs] at h
    cases h with
    | block h =>
      cases hcs
      rw [outcome_scanToken_block, h]
      rfl
    | string single h =>
      cases hcs
      rw [outcome_scanToken_string single, outcome_scanString.mpr h]
      rfl
    | spread =>
      cases hcs
      rfl
    | mark h =>
      cases hcs
      exact outcome_scanToken_mark h _
    | @number n rest stop =>
      have hc : c.isDigit = true ∨ c = '-' := by
        rw [Number.chars_append, signChars] at hcs
        split at hcs
        · exact .inr (List.cons.inj hcs).1.symm
        · rw [← (List.cons.inj hcs).1]
          exact .inl n.whole.head_digit
      rw [outcome_scanToken_number hc, outcome_scanNumber.mpr ⟨hcs.symm, stop⟩]
      rfl
    | @name n rest stop =>
      rw [Name.chars, List.cons_append] at hcs
      cases hcs
      obtain ⟨hn, hr⟩ := n.scan_append stop
      rw [outcome_scanToken_name n.head_start, hn, hr]

/-! ### Texts -/

/-- The tokens of a text are the one it starts with and the tokens behind that. -/
lemma tokens?_eq (cs : List Char) :
    tokens? cs =
      match dropIgnored false cs with
      | [] => some []
      | c :: r => (outcome (scanToken c r)).bind fun p => (tokens? p.2).map (p.1 :: ·) := by
  rw [tokens?, Stream.ofChars]
  split
  · rename_i h
    rw [h]
    rfl
  · rename_i c r h
    rw [h]
    dsimp only
    cases hs : scanToken c r with
    | error e => rfl
    | ok p => rfl

/-- What separates tokens makes no difference in front of a text. -/
lemma tokens?_congr {cs ds : List Char} (h : dropIgnored false cs = dropIgnored false ds) :
    tokens? cs = tokens? ds := by
  rw [tokens?_eq, tokens?_eq, h]

lemma tokens?_of_dropIgnored_eq_nil {cs : List Char} (h : dropIgnored false cs = []) :
    tokens? cs = some [] := by
  rw [tokens?_eq, h]

lemma not_isIgnored_of_isNameContinue {c : Char} (h : isNameContinue c = true) :
    isIgnored c = false ∧ c ≠ '#' :=
  forall_ascii (p := fun c => isNameContinue c = true → isIgnored c = false ∧ c ≠ '#')
    (by decide) (ascii_of_isNameContinue h) h

/-- A token does not start with what separates tokens. -/
lemma Takes.exists_head {cs rest : List Char} {t : Token} (h : Takes cs t rest) :
    ∃ c r, cs = c :: r ∧ isIgnored c = false ∧ c ≠ '#' := by
  cases h with
  | block _ => exact ⟨_, _, rfl, by decide, by decide⟩
  | string _ _ => exact ⟨_, _, rfl, by decide, by decide⟩
  | spread => exact ⟨_, _, rfl, by decide, by decide⟩
  | @mark c _ p hp =>
    refine ⟨c, _, rfl, ?_, ?_⟩
    · by_contra hi
      simp only [isIgnored, Bool.not_eq_false, Bool.or_eq_true, beq_iff_eq] at hi
      rcases hi with ((((rfl | rfl) | rfl) | rfl) | rfl) | rfl <;>
        exact absurd hp (by cases p <;> decide)
    · rintro rfl
      exact absurd hp (by cases p <;> decide)
  | @number n _ _ =>
    have written := n.chars_append rest
    cases hn : n.negative with
    | true =>
      rw [hn] at written
      exact ⟨'-', _, written, by decide, by decide⟩
    | false =>
      rw [hn] at written
      refine ⟨n.whole.head, _, written, not_isIgnored_of_isNameContinue ?_⟩
      rw [isNameContinue, n.whole.head_digit, Bool.or_true]
  | @name n _ _ =>
    exact ⟨n.head, _, rfl, not_isIgnored_of_isNameContinue
      (isNameContinue_of_isNameStart n.head_start)⟩

/-- Nothing that separates tokens stands in front of a token. -/
lemma Takes.dropIgnored_eq {cs rest : List Char} {t : Token} (h : Takes cs t rest) :
    dropIgnored false cs = cs := by
  obtain ⟨c, r, rfl, hi, hc⟩ := h.exists_head
  simp [dropIgnored, hi, hc]

/-- The first token of a text. -/
lemma Takes.tokens?_eq {cs rest : List Char} {t : Token} (h : Takes cs t rest) :
    tokens? cs = (tokens? rest).map (t :: ·) := by
  obtain ⟨c, r, rfl, -, -⟩ := h.exists_head
  rw [OperationHooks.tokens?_eq, h.dropIgnored_eq]
  dsimp only
  rw [outcome_scanToken.mpr h, Option.bind_some]

/-- A text of tokens is empty but for what separates tokens, or it starts with a token behind
that. -/
lemma tokens?_cases {cs : List Char} {ts : List Token} (h : tokens? cs = some ts) :
    (dropIgnored false cs = [] ∧ ts = []) ∨
      ∃ t rest us, Takes (dropIgnored false cs) t rest ∧ tokens? rest = some us ∧ ts = t :: us := by
  rw [tokens?_eq] at h
  cases hd : dropIgnored false cs with
  | nil =>
    rw [hd] at h
    cases h
    exact .inl ⟨rfl, rfl⟩
  | cons c r =>
    rw [hd] at h
    obtain ⟨⟨t, rest⟩, ht, h⟩ := Option.bind_eq_some_iff.mp h
    obtain ⟨us, hu, rfl⟩ := Option.map_eq_some_iff.mp h
    exact .inr ⟨t, rest, us, outcome_scanToken.mp ht, hu, rfl⟩

end OperationHooks
