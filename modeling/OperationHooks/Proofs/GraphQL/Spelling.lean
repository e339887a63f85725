import OperationHooks.Proofs.GraphQL.Indentation
import OperationHooks.Proofs.GraphQL.PrintedStrings

/-!
# Spelled texts

Whatever is printed for an operation or a fragment holds no return, is made of tokens, and keeps
them when something is put behind it that does not go on with its last token. Marks and blanks keep
what stands on both sides of them apart, names and numbers do not.
-/

namespace OperationHooks

/-! ### Spelled texts -/

/-- A text without returns that is made of tokens, and stays so in front of texts of a kind. -/
structure Spelled (kind : List Char → Prop) (s : String) : Prop where
  no_return : '\r' ∉ s.toList
  tokens : ∃ ts, ∀ tail, kind tail → tokens? (s.toList ++ tail) = (tokens? tail).map (ts ++ ·)

/-- Any text at all. -/
def Anything (_ : List Char) : Prop := True

/-- What a token may go on with. -/
def goesOn (c : Char) : Bool := isNameContinue c || c == '.' || c == '"'

/-- A text that does not go on with a token in front of it. -/
def Parting (tail : List Char) : Prop := Stops goesOn tail

variable {p q : List Char → Prop} {s t : String}

namespace Spelled

lemma imp (h : Spelled p s) (hqp : ∀ tail, q tail → p tail) : Spelled q s := by
  obtain ⟨ts, ht⟩ := h.tokens
  exact ⟨h.no_return, ts, fun tail hq => ht tail (hqp tail hq)⟩

lemma free (h : Spelled Anything s) : Spelled q s := h.imp fun _ _ => trivial

lemma empty : Spelled q "" :=
  ⟨List.not_mem_nil, [], fun tail _ => by cases h : tokens? tail <;> simp [h]⟩

/-- Two texts make one if the first may stand in front of the second. -/
lemma append (hs : Spelled p s) (ht : Spelled q t)
    (apart : ∀ tail, q tail → p (t.toList ++ tail)) : Spelled q (s ++ t) := by
  obtain ⟨ts, hts⟩ := hs.tokens
  obtain ⟨us, hus⟩ := ht.tokens
  refine ⟨?_, ts ++ us, fun tail hq => ?_⟩
  · rw [String.toList_append, List.mem_append, not_or]
    exact ⟨hs.no_return, ht.no_return⟩
  · rw [String.toList_append, List.append_assoc, hts _ (apart tail hq), hus tail hq,
      Option.map_map]
    congr 1
    funext vs
    exact (List.append_assoc ts us vs).symm

lemma free_append (hs : Spelled Anything s) (ht : Spelled q t) : Spelled q (s ++ t) :=
  hs.append ht fun _ _ => trivial

lemma append_parting (hs : Spelled Parting s) (ht : Spelled Parting t) (apart : Parting t.toList) :
    Spelled Parting (s ++ t) :=
  hs.append ht fun _ hq => Stops.append apart hq

/-- The tokens of a text with nothing behind it. -/
lemma exists_tokens (h : Spelled Parting s) : ∃ ts, tokens? s.toList = some ts := by
  obtain ⟨ts, ht⟩ := h.tokens
  refine ⟨ts, ?_⟩
  have nothing : tokens? [] = some [] := tokens?_of_dropIgnored_eq_nil rfl
  have whole := ht [] (stops_nil _)
  rw [List.append_nil, nothing] at whole
  simpa using whole

end Spelled

/-! ### Marks and blanks -/

/-- A mark, or a blank between tokens. -/
def isMark (c : Char) : Bool := (isIgnored c && c != '\r') || (Punctuator.ofChar? c).isSome

/-- A text of marks and blanks. -/
def Marks (s : String) : Prop := s.toList ≠ [] ∧ s.toList.all isMark = true

instance (s : String) : Decidable (Marks s) := inferInstanceAs (Decidable (_ ∧ _))

lemma tokens?_mark {c : Char} (h : isMark c = true) :
    ∃ ts, ∀ tail, tokens? (c :: tail) = (tokens? tail).map (ts ++ ·) := by
  rw [isMark, Bool.or_eq_true] at h
  rcases h with h | h
  · rw [Bool.and_eq_true] at h
    have hc : c ≠ '#' := by
      rintro rfl
      exact absurd h.1 (by decide)
    refine ⟨[], fun tail => ?_⟩
    have drop : dropIgnored false (c :: tail) = dropIgnored false tail := by
      simp [dropIgnored, hc, h.1]
    rw [tokens?_congr drop]
    cases tokens? tail <;> rfl
  · obtain ⟨m, hm⟩ := Option.isSome_iff_exists.mp h
    exact ⟨[.mark m], fun tail => (Takes.mark hm).tokens?_eq⟩

lemma not_goesOn_of_isMark {c : Char} (h : isMark c = true) : goesOn c = false := by
  cases hg : goesOn c with
  | false => rfl
  | true =>
    simp only [goesOn, Bool.or_eq_true, beq_iff_eq] at hg
    rcases hg with (hn | rfl) | rfl
    · exact absurd h (forall_ascii (p := fun c => isNameContinue c = true → ¬isMark c = true)
        (by decide) (ascii_of_isNameContinue hn) hn)
    · exact absurd h (by decide)
    · exact absurd h (by decide)

namespace Marks

/-- Marks are tokens in front of any text. -/
lemma spelled (h : Marks s) : Spelled q s := by
  have all : ∀ c ∈ s.toList, isMark c = true := List.all_eq_true.mp h.2
  refine ⟨fun hr => absurd (all _ hr) (by decide), ?_⟩
  generalize s.toList = cs at all
  induction cs with
  | nil => exact ⟨[], fun tail _ => by cases h : tokens? tail <;> simp [h]⟩
  | cons c cs ih =>
    obtain ⟨ts, ht⟩ := tokens?_mark (all c List.mem_cons_self)
    obtain ⟨us, hu⟩ := ih fun d hd => all d (List.mem_cons_of_mem c hd)
    refine ⟨ts ++ us, fun tail hq => ?_⟩
    rw [List.cons_append, ht, hu tail hq, Option.map_map]
    congr 1
    funext vs
    exact (List.append_assoc ts us vs).symm

/-- Marks keep what stands in front of them and behind them apart. -/
lemma parting (h : Marks s) (tail : List Char) : Parting (s.toList ++ tail) := by
  obtain ⟨c, r, hs⟩ := List.exists_cons_of_ne_nil h.1
  have all := List.all_eq_true.mp h.2
  rw [hs] at all ⊢
  exact stops_cons.mpr (not_goesOn_of_isMark (all c List.mem_cons_self))

end Marks

namespace Spelled

lemma append_marks (hs : Spelled Parting s) (ht : Marks t) : Spelled q (s ++ t) :=
  hs.append ht.spelled fun tail _ => ht.parting tail

lemma between {u : String} (hs : Marks s) (ht : Spelled Parting t) (hu : Marks u) :
    Spelled q (s ++ t ++ u) :=
  append_marks (free_append hs.spelled ht) hu

end Spelled

/-! ### Tokens of their own -/

lemma stops_of_parting {tail : List Char} (h : Parting tail) :
    Stops isNameContinue tail ∧ Stops isNumberContinue tail ∧ Stops (· == '"') tail := by
  refine ⟨h.imp fun c hc => ?_, h.imp fun c hc => ?_, h.imp fun c hc => ?_⟩
  · rw [goesOn, hc, Bool.true_or, Bool.true_or]
  · rw [isNumberContinue] at hc
    rw [goesOn, hc, Bool.true_or]
  · rw [goesOn, hc, Bool.or_true]

lemma Spelled.of_takes (token : Token) (hr : '\r' ∉ s.toList)
    (h : ∀ tail, q tail → Takes (s.toList ++ tail) token tail) : Spelled q s :=
  ⟨hr, [token], fun tail hq => (h tail hq).tokens?_eq⟩

lemma Name.spelled (n : Name) : Spelled Parting n.text := by
  have hr : '\r' ∉ n.text.toList := by
    rw [toList_text]
    exact fun h => absurd (n.isNameContinue_chars _ h) (by decide)
  refine .of_takes (.name n) hr fun tail h => ?_
  rw [toList_text]
  exact .name (stops_of_parting h).1

/-- A word that is written like a name. -/
def isWord (word : String) : Bool :=
  match word.toList with
  | [] => false
  | c :: r => isNameStart c && r.all isNameContinue

lemma spelled_word (h : isWord s = true) : Spelled Parting s := by
  rw [isWord] at h
  split at h
  · cases h
  · rename_i c r hs
    rw [Bool.and_eq_true] at h
    have name : s = (Name.mk c r h.1 h.2).text := by
      rw [Name.text, Name.chars, ← hs, String.ofList_toList]
    rw [name]
    exact Name.spelled _

lemma Number.spelled (n : Number) : Spelled Parting n.text := by
  have chars : n.text.toList = n.chars := String.toList_ofList
  have hr : '\r' ∉ n.text.toList := by
    rw [chars]
    exact lineEnd_not_mem_number (.inr rfl)
  refine .of_takes (.number n) hr fun tail h => ?_
  rw [chars]
  exact .number (stops_of_parting h).2.1

lemma spelled_spread : Spelled Anything "..." :=
  .of_takes (.mark .spread) (by decide) fun _ _ => .spread

lemma spelled_quoted (value : String) : Spelled Parting (quoted value) := by
  have chars : (quoted value).toList = '"' :: (value.toList.flatMap quotedChar ++ ['"']) := by
    simp only [quoted, String.toList_append, String.toList_ofList]
    rfl
  have hr : '\r' ∉ (quoted value).toList := by
    rw [chars]
    simp [return_not_mem_quotedChar]
  refine .of_takes (.string (String.ofList value.toList)) hr fun tail h => ?_
  rw [chars, List.cons_append, List.append_assoc]
  refine .string ?_ (inQuotes_quoted value.toList tail)
  rintro ⟨r', hr'⟩
  cases hv : value.toList with
  | nil =>
    rw [hv] at hr'
    have next : tail = '"' :: r' := (List.cons.inj hr').2
    rw [next] at h
    exact absurd (stops_cons.mp h) (by decide)
  | cons c cs =>
    rw [hv, List.flatMap_cons, List.append_assoc] at hr'
    have stops := stops_quotedChar c (cs.flatMap quotedChar ++ (['"'] ++ tail))
    rw [hr'] at stops
    exact absurd (stops_cons.mp stops) (by decide)

lemma spelled_blockQuoted (value : BlockText) : Spelled Anything (blockQuoted value.text) := by
  obtain ⟨raw, h⟩ := inTripleQuotes_blockQuoted value
  refine .of_takes (.block (.ofRaw raw)) (return_not_mem_blockQuoted value) fun tail _ => ?_
  obtain ⟨r, hr, quotes⟩ := h tail
  obtain ⟨⟨raw', rest⟩, hb, heq⟩ := Option.map_eq_some_iff.mp quotes.blockOutcome_eq
  obtain ⟨hraw, rfl⟩ := Prod.mk.inj heq
  rw [hr, ← Subtype.ext hraw]
  exact .block hb

lemma StringLiteral.spelled (s : StringLiteral) : Spelled Parting s.text := by
  cases s with
  | quoted value => exact spelled_quoted value
  | block value => exact (spelled_blockQuoted value).free

end OperationHooks
