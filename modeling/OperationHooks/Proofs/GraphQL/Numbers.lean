import Mathlib.Tactic.Common
import OperationHooks.GraphQL.Stream
import OperationHooks.Proofs.Text.Stops

/-!
# Scanning numbers

A number is taken exactly as it is written, up to where it cannot go on: each part of it is told by
its characters and by what may not stand behind them, and the parts make the whole.
-/

namespace OperationHooks

/-! ### Outcomes -/

/-- What a scanner has taken and what it has left, without the proof that it is less. -/
def outcome {α : Type} {P : List Char → Prop}
    (res : Except SourceError (α × { r : List Char // P r })) : Option (α × List Char) :=
  match res with
  | .ok (a, r) => some (a, r.1)
  | .error _ => none

lemma of_outcome_eq_some {α : Type} {P : List Char → Prop}
    {res : Except SourceError (α × { r : List Char // P r })} {a : α} {r : List Char}
    (h : outcome res = some (a, r)) : P r := by
  cases res with
  | error e => cases h
  | ok p =>
    cases h
    exact p.2.2

/-- One scanner after another: what the second one does must not depend on the proof that the
first one has left less. -/
lemma outcome_bind {α β : Type} {P Q : List Char → Prop}
    {res : Except SourceError (α × { r : List Char // P r })}
    {k : α × { r : List Char // P r } → Except SourceError (β × { r : List Char // Q r })}
    {k' : α × List Char → Option (β × List Char)}
    (hk : ∀ a r hr, outcome (k (a, ⟨r, hr⟩)) = k' (a, r)) :
    outcome (res >>= k) = (outcome res).bind k' := by
  cases res with
  | error e => rfl
  | ok p => exact hk p.1 p.2.1 p.2.2

/-! ### Numbers -/

/-- Characters that a number would go on with, or that may not follow one. -/
def isNumberContinue (c : Char) : Bool := isNameContinue c || c == '.'

lemma Digits.scan_append (d : Digits) {rest : List Char} (h : Stops Char.isDigit rest) :
    (Digits.scan d.head d.head_digit (d.tail ++ rest)).1 = d ∧
      (Digits.scan d.head d.head_digit (d.tail ++ rest)).2.1 = rest := by
  obtain ⟨ht, hd⟩ := takeWhile_append_stops (List.all_eq_true.mp d.tail_digits) h
  constructor
  · simp only [Digits.scan, ht]
  · simp only [Digits.scan, hd]

lemma Digits.scan_spec {c : Char} (h : c.isDigit = true) (cs : List Char) :
    c :: cs = (Digits.scan c h cs).1.chars ++ (Digits.scan c h cs).2.1 ∧
      Stops Char.isDigit (Digits.scan c h cs).2.1 :=
  ⟨by simp [Digits.scan, Digits.chars], stops_dropWhile _ _⟩

lemma outcome_scanDigits {cs rest : List Char} {d : Digits} :
    outcome (scanDigits cs) = some (d, rest) ↔ cs = d.chars ++ rest ∧ Stops Char.isDigit rest := by
  constructor
  · intro h
    cases cs with
    | nil => cases h
    | cons c r =>
      rw [scanDigits] at h
      split at h
      · rename_i hc
        cases h
        exact Digits.scan_spec hc r
      · cases h
  · rintro ⟨rfl, hr⟩
    obtain ⟨hd, hrest⟩ := d.scan_append hr
    rw [Digits.chars, List.cons_append, scanDigits, dif_pos d.head_digit, outcome, hd, hrest]

lemma outcome_scanWhole {cs rest : List Char} {d : { d : Digits // d.head = '0' → d.tail = [] }} :
    outcome (scanWhole cs) = some (d, rest) ↔
      cs = d.1.chars ++ rest ∧ Stops Char.isDigit rest := by
  obtain ⟨⟨c, tail, hc, ht⟩, hz⟩ := d
  constructor
  · intro h
    cases cs with
    | nil => cases h
    | cons c' r =>
      rw [scanWhole] at h
      split at h
      · rename_i hd
        split at h
        · rename_i h0
          split at h
          · cases h
            exact ⟨rfl, stops_nil _⟩
          · split at h
            · cases h
            · rename_i hd'
              cases h
              exact ⟨rfl, stops_cons.mpr (by simpa using hd')⟩
        · cases h
          exact Digits.scan_spec hd r
      · cases h
  · rintro ⟨rfl, hr⟩
    rw [Digits.chars, List.cons_append, scanWhole, dif_pos hc]
    split
    · rename_i h0
      dsimp only at hz
      have hnil := hz h0
      subst hnil
      cases rest with
      | nil => rfl
      | cons e rest =>
        simp only [List.nil_append, stops_cons.mp hr]
        rfl
    · obtain ⟨hd, hrest⟩ := Digits.scan_append ⟨c, tail, hc, ht⟩ hr
      simp only [outcome, hd, hrest]

/-- The characters of a fraction, with the point. -/
def fractionChars (fraction : Option Digits) : List Char :=
  match fraction with
  | some d => '.' :: d.chars
  | none => []

/-- The characters of an exponent that may be missing. -/
def exponentChars (exponent : Option Exponent) : List Char :=
  match exponent with
  | some e => e.chars
  | none => []

/-- The sign in front of a number. -/
def signChars (negative : Bool) : List Char := if negative then ['-'] else []

lemma Number.chars_append (n : Number) (rest : List Char) :
    n.chars ++ rest = signChars n.negative ++ (n.whole.chars ++ (fractionChars n.fraction
      ++ (exponentChars n.exponent ++ rest))) := by
  simp only [← List.append_assoc]
  rfl

lemma outcome_scanFraction_point (r : List Char) :
    outcome (scanFraction ('.' :: r)) =
      (outcome (scanDigits r)).bind fun p => some (some p.1, p.2) := by
  rw [scanFraction]
  exact outcome_bind fun d r' hr => rfl

lemma outcome_scanFraction {cs rest : List Char} {f : Option Digits} :
    outcome (scanFraction cs) = some (f, rest) ↔
      cs = fractionChars f ++ rest ∧
        Stops (if f.isSome then Char.isDigit else (· == '.')) rest := by
  constructor
  · intro h
    by_cases hp : ∃ r, cs = '.' :: r
    · obtain ⟨r, rfl⟩ := hp
      rw [outcome_scanFraction_point] at h
      obtain ⟨⟨d, r'⟩, hd, h⟩ := Option.bind_eq_some_iff.mp h
      cases h
      obtain ⟨rfl, hs⟩ := outcome_scanDigits.mp hd
      exact ⟨rfl, hs⟩
    · rw [scanFraction] at h
      · cases h
        refine ⟨rfl, fun c hc => ?_⟩
        obtain ⟨r, rfl⟩ := List.head?_eq_some_iff.mp hc
        have hne : c ≠ '.' := fun h => hp ⟨r, h ▸ rfl⟩
        simpa using hne
      · exact fun r hr => hp ⟨r, hr⟩
  · rintro ⟨rfl, hr⟩
    cases f with
    | some d =>
      rw [fractionChars, List.cons_append, outcome_scanFraction_point,
        outcome_scanDigits.mpr ⟨rfl, hr⟩]
      rfl
    | none =>
      rw [fractionChars, List.nil_append, scanFraction]
      · rfl
      · rintro r rfl
        exact absurd (stops_cons.mp hr) (by simp)

lemma scanSign_spec (cs : List Char) : cs = (scanSign cs).1.1.toList ++ (scanSign cs).2.1 := by
  unfold scanSign
  split <;> rfl

/-- A sign is taken in front of a digit. -/
lemma scanSign_append (sign : WrittenSign) (d : Digits) (rest : List Char) :
    ∃ h, scanSign (sign.1.toList ++ (d.chars ++ rest)) = (sign, ⟨d.chars ++ rest, h⟩) := by
  obtain ⟨sign, rfl | rfl | rfl⟩ := sign
  · have hp : d.head ≠ '+' := fun h => absurd d.head_digit (by rw [h]; decide)
    have hm : d.head ≠ '-' := fun h => absurd d.head_digit (by rw [h]; decide)
    simp [scanSign, Digits.chars, hp, hm, NoLonger.all]
  · exact ⟨_, rfl⟩
  · exact ⟨_, rfl⟩

lemma outcome_scanExponent_letter {c : Char} (hc : c = 'e' ∨ c = 'E') {r r₁ : List Char}
    {sign : WrittenSign} {hr : r₁.length ≤ r.length} (hs : scanSign r = (sign, ⟨r₁, hr⟩)) :
    outcome (scanExponent (c :: r)) =
      (outcome (scanDigits r₁)).bind fun p => some (some ⟨c, sign, p.1, hc⟩, p.2) := by
  rw [scanExponent, dif_pos hc, hs]
  exact outcome_bind fun d r' hr => rfl

lemma outcome_scanExponent {cs rest : List Char} {e : Option Exponent} :
    outcome (scanExponent cs) = some (e, rest) ↔
      cs = exponentChars e ++ rest ∧
        Stops (if e.isSome then Char.isDigit else fun c => c == 'e' || c == 'E') rest := by
  constructor
  · intro h
    cases cs with
    | nil =>
      cases h
      exact ⟨rfl, stops_nil _⟩
    | cons c r =>
      by_cases hc : c = 'e' ∨ c = 'E'
      · have hr := scanSign_spec r
        cases hsign : scanSign r with
        | mk sign r₁ =>
          rw [hsign] at hr
          rw [outcome_scanExponent_letter hc hsign] at h
          obtain ⟨⟨d, r'⟩, hd, h⟩ := Option.bind_eq_some_iff.mp h
          cases h
          obtain ⟨hd, hs⟩ := outcome_scanDigits.mp hd
          have written : r = sign.1.toList ++ d.chars ++ r' := by
            rw [List.append_assoc, ← hd]
            exact hr
          exact ⟨congrArg (c :: ·) written, hs⟩
      · rw [scanExponent, dif_neg hc] at h
        cases h
        exact ⟨rfl, stops_cons.mpr (by simpa using hc)⟩
  · rintro ⟨rfl, hr⟩
    cases e with
    | some e =>
      obtain ⟨letter, sign, d, hl⟩ := e
      obtain ⟨_, hsign⟩ := scanSign_append sign d rest
      rw [exponentChars, Exponent.chars, List.cons_append, List.append_assoc,
        outcome_scanExponent_letter hl hsign, outcome_scanDigits.mpr ⟨rfl, hr⟩]
      rfl
    | none =>
      cases rest with
      | nil => rfl
      | cons c rest =>
        have hc : ¬(c = 'e' ∨ c = 'E') := by simpa using stops_cons.mp hr
        rw [exponentChars, List.nil_append, scanExponent, dif_neg hc]
        rfl

lemma checkNumberEnd_eq_ok {rest : List Char} :
    checkNumberEnd rest = .ok () ↔ Stops (fun c => isNameStart c || c == '.') rest := by
  cases rest with
  | nil => simp [checkNumberEnd, stops_nil]
  | cons c rest =>
    rw [checkNumberEnd, stops_cons, Bool.or_eq_false_iff, beq_eq_false_iff_ne]
    split <;> simp_all [imp_iff_not_or, or_comm]

/-- What stands behind a number, part by part, is what may not go on with it at all. -/
lemma stops_parts {fraction : Option Digits} {exponent : Option Exponent} {rest : List Char} :
    (Stops Char.isDigit (fractionChars fraction ++ exponentChars exponent ++ rest) ∧
      Stops (if fraction.isSome then Char.isDigit else (· == '.'))
        (exponentChars exponent ++ rest) ∧
      Stops (if exponent.isSome then Char.isDigit else fun c => c == 'e' || c == 'E') rest ∧
      Stops (fun c => isNameStart c || c == '.') rest) ↔
    Stops isNumberContinue rest := by
  constructor
  · rintro ⟨hw, hf, he, hn⟩ c hc
    have digit : c.isDigit = false := by
      cases exponent with
      | some e => exact he c hc
      | none =>
        cases fraction with
        | some d => exact hf c hc
        | none => exact hw c hc
    have hn := hn c hc
    rw [Bool.or_eq_false_iff] at hn
    rw [isNumberContinue, isNameContinue, hn.1, hn.2, digit]
    rfl
  · intro h
    have digit : Stops Char.isDigit rest := h.imp fun c hc => by
      simp [isNumberContinue, isNameContinue, hc]
    have point : Stops (· == '.') rest := h.imp fun c hc => by
      simp [isNumberContinue, hc]
    have start : Stops (fun c => isNameStart c || c == '.') rest := h.imp fun c hc => by
      rcases Bool.or_eq_true_iff.mp hc with hc | hc <;>
        simp [isNumberContinue, isNameContinue, hc]
    have letter : Stops (fun c => c == 'e' || c == 'E') rest := start.imp fun c hc => by
      rw [Bool.or_eq_true, beq_iff_eq, beq_iff_eq] at hc
      rcases hc with rfl | rfl <;> rfl
    have e_digit (e : Exponent) (r : List Char) : Stops Char.isDigit (e.chars ++ r) := by
      obtain ⟨letter, sign, d, rfl | rfl⟩ := e <;> exact stops_cons.mpr rfl
    have e_point (e : Exponent) (r : List Char) : Stops (· == '.') (e.chars ++ r) := by
      obtain ⟨letter, sign, d, rfl | rfl⟩ := e <;> exact stops_cons.mpr rfl
    refine ⟨?_, ?_, ?_, start⟩
    · cases fraction with
      | some d => exact stops_cons.mpr (by decide)
      | none =>
        cases exponent with
        | some e => exact e_digit e rest
        | none => exact digit
    · cases exponent with
      | some e =>
        cases fraction with
        | some d => exact e_digit e rest
        | none => exact e_point e rest
      | none =>
        cases fraction with
        | some d => exact digit
        | none => exact point
    · cases exponent with
      | some e => exact digit
      | none => exact letter

lemma length_tail_le (cs : List Char) : cs.tail.length ≤ cs.length :=
  (List.tail_sublist cs).length_le

/-- What the digits of a number are looked for in. -/
def behindSign (cs : List Char) : NoLonger cs :=
  if cs.head? == some '-' then ⟨cs.tail, length_tail_le cs⟩ else NoLonger.all cs

lemma behindSign_spec (cs : List Char) :
    cs = signChars (cs.head? == some '-') ++ (behindSign cs).1 := by
  rw [signChars, behindSign]
  split
  · rename_i h
    obtain ⟨r, rfl⟩ := List.head?_eq_some_iff.mp (eq_of_beq h)
    rfl
  · rfl

lemma behindSign_append (negative : Bool) (whole : Digits) (rest : List Char) :
    ((signChars negative ++ (whole.chars ++ rest)).head? == some '-') = negative ∧
      (behindSign (signChars negative ++ (whole.chars ++ rest))).1 = whole.chars ++ rest := by
  have hm : whole.head ≠ '-' := fun h => absurd whole.head_digit (by rw [h]; decide)
  cases negative with
  | true => exact ⟨rfl, rfl⟩
  | false => simp [signChars, behindSign, Digits.chars, NoLonger.all, hm]

/-- A number is its sign, its digits, its fraction and its exponent, one after the other. -/
lemma outcome_scanNumber_eq (cs : List Char) :
    outcome (scanNumber cs) =
      (outcome (scanWhole (behindSign cs).1)).bind fun w =>
        (outcome (scanFraction w.2)).bind fun f =>
          (outcome (scanExponent f.2)).bind fun e =>
            match checkNumberEnd e.2 with
            | .ok _ => some (⟨cs.head? == some '-', w.1.1, f.1, e.1, w.1.2⟩, e.2)
            | .error _ => none := by
  unfold scanNumber
  refine outcome_bind fun w r₁ h₁ => outcome_bind fun f r₂ h₂ => outcome_bind fun e r₃ h₃ => ?_
  dsimp only
  cases checkNumberEnd r₃ <;> rfl

/-- A number is taken exactly as it is written, where nothing follows that it may not be followed
by. -/
lemma outcome_scanNumber {cs rest : List Char} {n : Number} :
    outcome (scanNumber cs) = some (n, rest) ↔
      cs = n.chars ++ rest ∧ Stops isNumberContinue rest := by
  rw [outcome_scanNumber_eq]
  constructor
  · intro h
    obtain ⟨⟨w, r₁⟩, hw, h⟩ := Option.bind_eq_some_iff.mp h
    obtain ⟨⟨f, r₂⟩, hf, h⟩ := Option.bind_eq_some_iff.mp h
    obtain ⟨⟨e, r₃⟩, he, h⟩ := Option.bind_eq_some_iff.mp h
    obtain ⟨hw, sw⟩ := outcome_scanWhole.mp hw
    obtain ⟨hf, sf⟩ := outcome_scanFraction.mp hf
    obtain ⟨he, se⟩ := outcome_scanExponent.mp he
    dsimp only at hf he h
    cases hc : checkNumberEnd r₃ with
    | error =>
      rw [hc] at h
      cases h
    | ok u =>
      rw [hc] at h
      cases h
      rw [he] at hf sf
      rw [hf] at hw sw
      rw [← List.append_assoc] at sw
      refine ⟨?_, stops_parts.mp ⟨sw, sf, se, checkNumberEnd_eq_ok.mp hc⟩⟩
      rw [Number.chars_append, ← hw]
      exact behindSign_spec cs
  · rintro ⟨rfl, hr⟩
    obtain ⟨negative, whole, fraction, exponent, hz⟩ := n
    obtain ⟨sw, sf, se, sn⟩ := (@stops_parts fraction exponent rest).mpr hr
    rw [List.append_assoc] at sw
    obtain ⟨hneg, hstart⟩ := behindSign_append negative whole
      (fractionChars fraction ++ (exponentChars exponent ++ rest))
    rw [Number.chars_append, hneg, hstart,
      (outcome_scanWhole (d := ⟨whole, hz⟩)).mpr ⟨rfl, sw⟩, Option.bind_some,
      outcome_scanFraction.mpr ⟨rfl, sf⟩, Option.bind_some,
      outcome_scanExponent.mpr ⟨rfl, se⟩, Option.bind_some, checkNumberEnd_eq_ok.mpr sn]

/-! ### What numbers are made of -/

lemma isDigit_of_mem_digits {c : Char} {d : Digits} (h : c ∈ d.chars) : c.isDigit = true := by
  rcases List.mem_cons.mp h with rfl | h
  · exact d.head_digit
  · exact List.all_eq_true.mp d.tail_digits c h

lemma mem_number_chars {n : Number} {c : Char} (h : c ∈ n.chars) :
    c.isDigit = true ∨ c ∈ ['-', '+', '.', 'e', 'E'] := by
  rw [← List.append_nil n.chars, Number.chars_append] at h
  obtain ⟨negative, whole, fraction, exponent, _⟩ := n
  simp only [List.mem_append, List.not_mem_nil, or_false] at h
  rcases h with h | h | h | h
  · cases negative <;> simp_all [signChars]
  · exact .inl (isDigit_of_mem_digits h)
  · cases fraction with
    | none => cases h
    | some d =>
      rcases List.mem_cons.mp h with rfl | h
      · simp
      · exact .inl (isDigit_of_mem_digits h)
  · cases exponent with
    | none => cases h
    | some e =>
      obtain ⟨letter, ⟨sign, hs⟩, d, hl⟩ := e
      rcases List.mem_cons.mp h with rfl | h
      · rcases hl with rfl | rfl <;> simp
      · rcases List.mem_append.mp h with h | h
        · rcases hs with rfl | rfl | rfl <;> simp_all
        · exact .inl (isDigit_of_mem_digits h)

/-- A number stands on one line. -/
lemma lineEnd_not_mem_number {n : Number} {c : Char} (hc : c = '\n' ∨ c = '\r') :
    c ∉ n.chars := by
  intro h
  rcases mem_number_chars h with h | h
  · rcases hc with rfl | rfl <;> exact absurd h (by decide)
  · rcases hc with rfl | rfl <;> exact absurd h (by decide)

end OperationHooks
