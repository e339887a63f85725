import OperationHooks.Proofs.GraphQL.Numbers
import OperationHooks.Proofs.Text.Ascii

/-!
# Scanning strings

What stands between quotes and between triple quotes: the scanners take what the two relations
`InQuotes` and `InTripleQuotes` tell, character by character and escape by escape.
-/

namespace OperationHooks

/-! ### Strings -/

/-- Escapes of one letter. -/
lemma outcome_scanEscape_letter {c : Char} (hc : c ≠ 'u') (r : List Char) :
    outcome (scanEscape ('\\' :: c :: r)) = (simpleEscape? c).map fun x => (x, r) := by
  rw [scanEscape]
  · cases simpleEscape? c <;> rfl
  · rintro r' - rfl
    exact absurd rfl hc
  · rintro a b c' d r' - rfl
    exact absurd rfl hc
  · rintro - rfl
    exact absurd rfl hc

lemma outcome_scanEscape_short {r : List Char} (hb : ∀ r', r ≠ '\x7b' :: r')
    (hq : ∀ a b c d r', r ≠ a :: b :: c :: d :: r') :
    outcome (scanEscape ('\\' :: 'u' :: r)) = none := by
  rw [scanEscape]
  · rfl
  · exact hb
  · exact hq

/-- The second one of two surrogates. -/
def trailing? (lead : Nat) : List Char → Option (Char × List Char)
  | '\\' :: 'u' :: e :: f :: g :: h :: r =>
    ((hexQuad? e f g h).bind (surrogatePair? lead)).map fun x => (x, r)
  | _ => none

/-- Code points with four digits, and pairs of surrogates. -/
lemma outcome_scanEscape_digits {a b c d : Char} (ha : a ≠ '\x7b') (r : List Char) :
    outcome (scanEscape ('\\' :: 'u' :: a :: b :: c :: d :: r)) =
      (hexQuad? a b c d).bind fun lead =>
        match scalar? lead with
        | some x => some (x, r)
        | none => trailing? lead r := by
  rw [scanEscape]
  · cases hexQuad? a b c d with
    | none => rfl
    | some lead =>
      rw [Option.bind_some]
      dsimp only
      cases scalar? lead with
      | some x => rfl
      | none =>
        dsimp only
        fun_cases trailing? lead r with
        | case1 e f g h r =>
          cases hp : (hexQuad? e f g h).bind (surrogatePair? lead) <;> simp only [hp] <;> rfl
        | case2 =>
          rename_i hr
          split
          · exact (hr _ _ _ _ _ rfl).elim
          · rfl
  · exact ha

/-- Hexadecimal digits in front of a text, nine of them at most. -/
def bracedDigits (r : List Char) : List Char := (r.take 9).takeWhile fun c => (hexDigit? c).isSome

/-- The code point that digits write. -/
def codePoint (digits : List Char) : Nat :=
  digits.foldl (fun n c => n * 16 + (hexDigit? c).getD 0) 0

/-- Code points in braces. -/
lemma outcome_scanEscape_braces (r : List Char) :
    outcome (scanEscape ('\\' :: 'u' :: '\x7b' :: r)) =
      match r.drop (bracedDigits r).length with
      | '\x7d' :: rest =>
        if (bracedDigits r).isEmpty ∨ (bracedDigits r).length = 9 then none
        else (scalar? (codePoint (bracedDigits r))).map fun x => (x, rest)
      | _ => none := by
  rw [scanEscape]
  unfold bracedDigits codePoint
  dsimp only
  split
  · rename_i rest hd
    simp only [hd]
    split
    · rfl
    · cases scalar? _ <;> rfl
  · rename_i hd
    split
    · rename_i rest hd'
      exact absurd hd' (hd rest)
    · rfl

lemma isSome_of_mem_bracedDigits {c : Char} {r : List Char} (h : c ∈ bracedDigits r) :
    (hexDigit? c).isSome = true :=
  List.all_eq_true.mp List.all_takeWhile c h

lemma bracedDigits_append {digits : List Char} (hd : ∀ c ∈ digits, (hexDigit? c).isSome = true)
    (hl : digits.length < 9) (r : List Char) : bracedDigits (digits ++ '\x7d' :: r) = digits := by
  have more : 9 - digits.length = (8 - digits.length) + 1 := by omega
  rw [bracedDigits, List.take_append, List.take_of_length_le (by omega), more, List.take_succ_cons]
  exact (takeWhile_append_stops hd (stops_cons.mpr (by decide))).1

lemma newline_not_mem_of_isSome {w : List Char} (h : ∀ c ∈ w, (hexDigit? c).isSome = true) :
    '\n' ∉ w :=
  fun hm => absurd (h _ hm) (by decide)

lemma isSome_of_hexQuad? {a b c d : Char} {n : Nat} (h : hexQuad? a b c d = some n) :
    ∀ x ∈ [a, b, c, d], (hexDigit? x).isSome = true := by
  rw [hexQuad?] at h
  cases ha : hexDigit? a <;> cases hb : hexDigit? b <;> cases hc : hexDigit? c <;>
    cases hd : hexDigit? d <;> simp_all

/-- What a scanner takes from a text stands on one line, and it is taken whatever stands behind. -/
def TakesInLine (scan : List Char → Option (Char × List Char)) (r : List Char) (x : Char)
    (rest : List Char) : Prop :=
  ∃ w, '\n' ∉ w ∧ r = w ++ rest ∧ ∀ rest', scan (w ++ rest') = some (x, rest')

lemma takesInLine_braces {r rest : List Char} {x : Char}
    (h : outcome (scanEscape ('\\' :: 'u' :: '\x7b' :: r)) = some (x, rest)) :
    TakesInLine (fun r => outcome (scanEscape ('\\' :: 'u' :: '\x7b' :: r))) r x rest := by
  rw [outcome_scanEscape_braces] at h
  split at h
  · rename_i rest₁ hr
    split at h
    · cases h
    · rename_i digits
      obtain ⟨x', hx, h⟩ := Option.map_eq_some_iff.mp h
      cases h
      have hex : ∀ c ∈ bracedDigits r, (hexDigit? c).isSome = true :=
        fun c => isSome_of_mem_bracedDigits
      have short : (bracedDigits r).length < 9 := by
        have le : (bracedDigits r).length ≤ (r.take 9).length :=
          (List.takeWhile_sublist _).length_le
        rw [List.length_take] at le
        omega
      have written : r = bracedDigits r ++ '\x7d' :: rest := by
        rw [← hr]
        exact List.prefix_iff_eq_append.mp
          ((List.takeWhile_prefix _).trans (List.take_prefix 9 r)) |>.symm
      refine ⟨bracedDigits r ++ ['\x7d'], ?_, ?_, fun rest' => ?_⟩
      · have hn := newline_not_mem_of_isSome hex
        simp [hn]
      · simpa using written
      · have again := bracedDigits_append hex short rest'
        dsimp only
        rw [List.append_assoc, List.singleton_append, outcome_scanEscape_braces, again,
          List.drop_left]
        refine (if_neg digits).trans ?_
        rw [hx]
        rfl
  · cases h

lemma takesInLine_trailing {lead : Nat} {r rest : List Char} {x : Char}
    (h : trailing? lead r = some (x, rest)) : TakesInLine (trailing? lead) r x rest := by
  unfold trailing? at h
  split at h
  · rename_i e f g h' r
    obtain ⟨x', hx, h⟩ := Option.map_eq_some_iff.mp h
    cases h
    obtain ⟨n, hq, hp⟩ := Option.bind_eq_some_iff.mp hx
    have hn := newline_not_mem_of_isSome (isSome_of_hexQuad? hq)
    refine ⟨['\\', 'u', e, f, g, h'], ?_, rfl, fun rest' => ?_⟩
    · simpa using hn
    · refine (congrArg (Option.map fun x => (x, rest')) hx).trans ?_
      rfl
  · cases h

lemma takesInLine_digits {a b c d x : Char} (ha : a ≠ '\x7b') {r rest : List Char}
    (h : outcome (scanEscape ('\\' :: 'u' :: a :: b :: c :: d :: r)) = some (x, rest)) :
    TakesInLine (fun r => outcome (scanEscape ('\\' :: 'u' :: r))) (a :: b :: c :: d :: r) x
      rest := by
  rw [outcome_scanEscape_digits ha] at h
  obtain ⟨lead, hq, h⟩ := Option.bind_eq_some_iff.mp h
  have hn := newline_not_mem_of_isSome (isSome_of_hexQuad? hq)
  cases hs : scalar? lead with
  | some x' =>
    rw [hs] at h
    cases h
    refine ⟨[a, b, c, d], hn, rfl, fun rest' => ?_⟩
    have digits := outcome_scanEscape_digits (b := b) (c := c) (d := d) ha rest'
    rw [hq, Option.bind_some, hs] at digits
    exact digits
  | none =>
    rw [hs] at h
    obtain ⟨w, hw, rfl, stable⟩ := takesInLine_trailing h
    refine ⟨[a, b, c, d] ++ w, ?_, rfl, fun rest' => ?_⟩
    · rw [List.mem_append, not_or]
      exact ⟨hn, hw⟩
    · have digits := outcome_scanEscape_digits (b := b) (c := c) (d := d) ha (w ++ rest')
      rw [hq, Option.bind_some, hs] at digits
      exact digits.trans (stable rest')

lemma TakesInLine.cons {scan : List Char → Option (Char × List Char)} {c x : Char}
    {r rest : List Char} (hc : c ≠ '\n') (h : TakesInLine (fun r => scan (c :: r)) r x rest) :
    TakesInLine scan (c :: r) x rest := by
  obtain ⟨w, hw, rfl, stable⟩ := h
  refine ⟨c :: w, ?_, rfl, stable⟩
  rw [List.mem_cons, not_or]
  exact ⟨Ne.symm hc, hw⟩

/-- An escape is taken on the line that it stands on, whatever stands behind it. -/
lemma takesInLine_escape {r rest : List Char} {x : Char}
    (h : outcome (scanEscape ('\\' :: r)) = some (x, rest)) :
    TakesInLine (fun r => outcome (scanEscape ('\\' :: r))) r x rest := by
  match r with
  | [] => cases h
  | c :: r =>
    by_cases hc : c = 'u'
    · subst hc
      refine .cons (by decide) ?_
      match r with
      | [] => cases h
      | a :: r =>
        by_cases ha : a = '\x7b'
        · subst ha
          exact .cons (by decide) (takesInLine_braces h)
        · match r with
          | b :: c :: d :: r => exact takesInLine_digits ha h
          | [] =>
            rw [outcome_scanEscape_short (by simpa using ha) (by simp)] at h
            cases h
          | [b] =>
            rw [outcome_scanEscape_short (by simpa using ha) (by simp)] at h
            cases h
          | [b, c] =>
            rw [outcome_scanEscape_short (by simpa using ha) (by simp)] at h
            cases h
    · rw [outcome_scanEscape_letter hc] at h
      obtain ⟨x', hx, h⟩ := Option.map_eq_some_iff.mp h
      cases h
      have hn : c ≠ '\n' := by rintro rfl; exact absurd hx (by simp [simpleEscape?])
      refine ⟨[c], by simpa using Ne.symm hn, rfl, fun rest' => ?_⟩
      dsimp only
      rw [List.singleton_append, outcome_scanEscape_letter hc, hx]
      rfl

lemma outcome_scanString_close (r : List Char) :
    outcome (scanString ('"' :: r)) = some ([], r) := by
  rw [scanString, if_pos rfl]
  rfl

lemma outcome_scanString_escape (r : List Char) :
    outcome (scanString ('\\' :: r)) =
      (outcome (scanEscape ('\\' :: r))).bind fun x =>
        (outcome (scanString x.2)).bind fun s => some (x.1 :: s.1, s.2) := by
  rw [scanString, if_neg (by decide), if_pos rfl]
  refine outcome_bind fun x r₁ h₁ => ?_
  exact outcome_bind fun s r₂ h₂ => rfl

lemma outcome_scanString_char {c : Char} (hq : c ≠ '"') (hb : c ≠ '\\')
    (hl : isLineEnd c = false) (r : List Char) :
    outcome (scanString (c :: r)) =
      (outcome (scanString r)).bind fun s => some (c :: s.1, s.2) := by
  rw [scanString, if_neg hq, if_neg hb, if_neg (by simp [hl])]
  exact outcome_bind fun s r₁ h₁ => rfl

lemma outcome_scanString_lineEnd {c : Char} (hl : isLineEnd c = true) (r : List Char) :
    outcome (scanString (c :: r)) = none := by
  have hq : c ≠ '"' := by rintro rfl; exact absurd hl (by decide)
  have hb : c ≠ '\\' := by rintro rfl; exact absurd hl (by decide)
  rw [scanString, if_neg hq, if_neg hb, if_pos hl]
  rfl

/-- What stands in front of a double quote, its value, and what stands behind the quote. -/
inductive InQuotes : List Char → List Char → List Char → Prop where
  | close {rest : List Char} : InQuotes ('"' :: rest) [] rest
  | escape {r r₁ rest value : List Char} {x : Char}
    (hx : outcome (scanEscape ('\\' :: r)) = some (x, r₁)) (h : InQuotes r₁ value rest) :
    InQuotes ('\\' :: r) (x :: value) rest
  | char {c : Char} {r rest value : List Char} (hq : c ≠ '"') (hb : c ≠ '\\')
    (hl : isLineEnd c = false) (h : InQuotes r value rest) : InQuotes (c :: r) (c :: value) rest

lemma outcome_scanString {cs value rest : List Char} :
    outcome (scanString cs) = some (value, rest) ↔ InQuotes cs value rest := by
  constructor
  · intro h
    induction hn : cs.length using Nat.strongRecOn generalizing cs value with
    | ind n ih =>
      subst hn
      cases cs with
      | nil =>
        rw [scanString] at h
        cases h
      | cons c r =>
        by_cases hq : c = '"'
        · rw [hq, outcome_scanString_close] at h
          cases h
          rw [hq]
          exact .close
        by_cases hb : c = '\\'
        · rw [hb, outcome_scanString_escape] at h
          obtain ⟨⟨x, r₁⟩, hx, h⟩ := Option.bind_eq_some_iff.mp h
          obtain ⟨⟨value', r₂⟩, hv, h⟩ := Option.bind_eq_some_iff.mp h
          cases h
          rw [hb]
          exact .escape hx (ih _ (of_outcome_eq_some hx) hv rfl)
        cases hl : isLineEnd c with
        | true =>
          rw [outcome_scanString_lineEnd hl] at h
          cases h
        | false =>
          rw [outcome_scanString_char hq hb hl] at h
          obtain ⟨⟨value', r₁⟩, hv, h⟩ := Option.bind_eq_some_iff.mp h
          cases h
          exact .char hq hb hl (ih _ (Nat.lt_succ_self _) hv rfl)
  · intro h
    induction h with
    | close => exact outcome_scanString_close _
    | escape hx _ ih =>
      rw [outcome_scanString_escape, hx, Option.bind_some, ih]
      rfl
    | char hq hb hl _ ih =>
      rw [outcome_scanString_char hq hb hl, ih]
      rfl

/-! ### Block strings -/

/-- The text between triple quotes that stands in front of a text, and what stands behind it. -/
def blockOutcome (cs : List Char) : Option (List Char × List Char) :=
  (outcome (scanBlock cs)).map fun p => (p.1.1, p.2)

lemma blockOutcome_close (r : List Char) :
    blockOutcome ('"' :: '"' :: '"' :: r) = some ([], r) := by
  rw [blockOutcome, scanBlock]
  rfl

lemma blockOutcome_escape (r : List Char) :
    blockOutcome ('\\' :: '"' :: '"' :: '"' :: r) =
      (blockOutcome r).map fun p => ('"' :: '"' :: '"' :: p.1, p.2) := by
  rw [blockOutcome, blockOutcome, scanBlock]
  cases scanBlock r <;> rfl

lemma blockOutcome_char {c : Char} {r : List Char} (hr : c ≠ '\r')
    (hq : ¬(c = '"' ∧ ∃ r', r = '"' :: '"' :: r'))
    (hb : ¬(c = '\\' ∧ ∃ r', r = '"' :: '"' :: '"' :: r')) :
    blockOutcome (c :: r) = (blockOutcome r).map fun p => (c :: p.1, p.2) := by
  rw [blockOutcome, blockOutcome, scanBlock]
  · cases scanBlock r with
    | error e => rfl
    | ok p =>
      show some ((if c = '\r' then '\n' else c) :: p.1.1, p.2.1) = some (c :: p.1.1, p.2.1)
      rw [if_neg hr]
  · rintro r' rfl rfl
    exact hq ⟨rfl, r', rfl⟩
  · rintro r' rfl rfl
    exact hb ⟨rfl, r', rfl⟩
  · rintro r' rfl
    exact absurd rfl hr

/-- What stands in front of triple quotes, the text that it writes, and what stands behind the
quotes, in a text without returns. -/
inductive InTripleQuotes : List Char → List Char → List Char → Prop where
  | close {rest : List Char} : InTripleQuotes ('"' :: '"' :: '"' :: rest) [] rest
  | escape {r raw rest : List Char} (h : InTripleQuotes r raw rest) :
    InTripleQuotes ('\\' :: '"' :: '"' :: '"' :: r) ('"' :: '"' :: '"' :: raw) rest
  | char {c : Char} {r raw rest : List Char} (hr : c ≠ '\r')
    (hq : ¬(c = '"' ∧ ∃ r', r = '"' :: '"' :: r'))
    (hb : ¬(c = '\\' ∧ ∃ r', r = '"' :: '"' :: '"' :: r')) (h : InTripleQuotes r raw rest) :
    InTripleQuotes (c :: r) (c :: raw) rest

lemma InTripleQuotes.blockOutcome_eq {cs raw rest : List Char} (h : InTripleQuotes cs raw rest) :
    blockOutcome cs = some (raw, rest) := by
  induction h with
  | close => exact blockOutcome_close _
  | escape _ ih =>
    rw [blockOutcome_escape, ih]
    rfl
  | char hr hq hb _ ih =>
    rw [blockOutcome_char hr hq hb, ih]
    rfl

lemma inTripleQuotes_of_blockOutcome {cs raw rest : List Char} (hr : '\r' ∉ cs)
    (h : blockOutcome cs = some (raw, rest)) : InTripleQuotes cs raw rest := by
  induction hn : cs.length using Nat.strongRecOn generalizing cs raw with
  | ind n ih =>
    subst hn
    cases cs with
    | nil => cases h
    | cons c r =>
      have hc : c ≠ '\r' := fun h => hr (h ▸ List.mem_cons_self)
      by_cases hq : c = '"' ∧ ∃ r', r = '"' :: '"' :: r'
      · obtain ⟨rfl, r', rfl⟩ := hq
        rw [blockOutcome_close] at h
        cases h
        exact .close
      by_cases hb : c = '\\' ∧ ∃ r', r = '"' :: '"' :: '"' :: r'
      · obtain ⟨rfl, r', rfl⟩ := hb
        rw [blockOutcome_escape] at h
        obtain ⟨⟨raw', r₁⟩, hraw, h⟩ := Option.map_eq_some_iff.mp h
        cases h
        refine .escape (ih _ ?_ (fun h => hr (by simp [h])) hraw rfl)
        simp only [List.length_cons]
        omega
      · rw [blockOutcome_char hc hq hb] at h
        obtain ⟨⟨raw', r₁⟩, hraw, h⟩ := Option.map_eq_some_iff.mp h
        cases h
        exact .char hc hq hb
          (ih _ (Nat.lt_succ_self _) (fun h => hr (List.mem_cons_of_mem _ h)) hraw rfl)

end OperationHooks
