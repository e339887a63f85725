import OperationHooks.Proofs.Json.Reading
import OperationHooks.Proofs.TypeScript.Template

/-!
# Reading string literals

How a string literal is read: up to the first bare quote of its kind, with escapes cooked and on
one line. A text without quotes, backslashes and line ends stands for itself between quotes, and a
JSON string is a literal with the value that it has as JSON.
-/

namespace OperationHooks

namespace TypeScript

/-- The value of a string literal from the text behind its opening quote, and the text behind the
closing one. -/
def readQuoted (quote : Char) (cs : List Char) : Option (List Char × Shorter cs) :=
  match cs with
  | [] => none
  | c :: r =>
    if c = quote then some ([], (NoLonger.all r).behind c)
    else if c = '\\' then do
      let (x, r₁) ← readEscape r
      let (s, r₂) ← readQuoted quote r₁.1
      return (x ++ s, (r₁.andThen r₂).behind c)
    else if c = '\n' ∨ c = '\r' then none
    else do
      let (s, r₁) ← readQuoted quote r
      return (c :: s, r₁.behind c)
termination_by cs.length
decreasing_by
  · exact Nat.lt_succ_of_lt r₁.2
  · exact Nat.lt_succ_self _

/-- A character that stands for itself between quotes. -/
def isPlain (quote c : Char) : Bool := c != quote && c != '\\' && c != '\n' && c != '\r'

section reading

variable {quote c : Char} {cs r s rest : List Char}

lemma readQuoted_close (quote : Char) (rest : List Char) :
    ∃ h, readQuoted quote (quote :: rest) = some ([], ⟨rest, h⟩) := by
  rw [readQuoted, if_pos rfl]
  exact ⟨by simp, rfl⟩

lemma readQuoted_plain_cons (plain : isPlain quote c = true)
    (behind : ∃ h, readQuoted quote r = some (s, ⟨rest, h⟩)) :
    ∃ h, readQuoted quote (c :: r) = some (c :: s, ⟨rest, h⟩) := by
  simp only [isPlain, Bool.and_eq_true, bne_iff_ne] at plain
  obtain ⟨⟨⟨notQuote, notBackslash⟩, notFeed⟩, notReturn⟩ := plain
  obtain ⟨h, behind⟩ := behind
  refine ⟨Nat.lt_succ_of_lt h, ?_⟩
  rw [readQuoted, if_neg notQuote, if_neg notBackslash, if_neg (not_or.mpr ⟨notFeed, notReturn⟩),
    behind]
  rfl

lemma readQuoted_escape {x : List Char} (other : quote ≠ '\\')
    (escape : ∃ h, readEscape cs = some (x, ⟨r, h⟩))
    (behind : ∃ h, readQuoted quote r = some (s, ⟨rest, h⟩)) :
    ∃ h, readQuoted quote ('\\' :: cs) = some (x ++ s, ⟨rest, h⟩) := by
  obtain ⟨h, escape⟩ := escape
  obtain ⟨h', behind⟩ := behind
  refine ⟨by simp only [List.length_cons]; omega, ?_⟩
  rw [readQuoted, if_neg other.symm, if_pos rfl, escape]
  simp only [Option.bind_eq_bind, Option.bind_some, behind]
  rfl

/-- A plain text stands for itself. -/
lemma readQuoted_plain (plain : ∀ c ∈ cs, isPlain quote c = true) (rest : List Char) :
    ∃ h, readQuoted quote (cs ++ quote :: rest) = some (cs, ⟨rest, h⟩) := by
  induction cs with
  | nil => exact readQuoted_close quote rest
  | cons c cs ih =>
    exact readQuoted_plain_cons (plain c List.mem_cons_self)
      (ih fun d hd => plain d (List.mem_cons_of_mem _ hd))

lemma readEscape_letter {l : Char} (h : (l, c) ∈ Json.letterEscapes) (r : List Char) :
    ∃ h, readEscape (l :: r) = some ([c], ⟨r, h⟩) := by
  have meaning : ∀ p ∈ Json.letterEscapes, p.1 ∉ ['x', 'u', '\r'] ∧ isLineTerminator p.1 = false ∧
      p.1.isDigit = false ∧ cookedChar p.1 = p.2 := by decide
  obtain ⟨other, sameLine, noDigit, cooked⟩ := meaning _ h
  simp only [List.mem_cons, List.not_mem_nil, or_false, not_or] at other sameLine noDigit cooked
  refine ⟨by simp, ?_⟩
  rw [readEscape]
  · rw [if_neg (by simp [sameLine]), if_neg (by simp [other]), if_neg (by simp [noDigit]), cooked]
    rfl
  all_goals
    intros
    subst l
    simp at other

lemma readEscape_control (control : c.toNat < 0x20) (r : List Char) :
    ∃ h, readEscape ('u' :: '0' :: '0' :: Json.hexDigitLower (c.toNat / 16) ::
      Json.hexDigitLower (c.toNat % 16) :: r) = some ([c], ⟨r, h⟩) := by
  refine ⟨by simp only [List.length_cons]; omega, ?_⟩
  rw [readEscape, Json.hexQuad?_control control]
  · simp only [scalar?_toNat]
    rfl
  · simp

/-- What JSON has for a character is read as the character. -/
lemma readQuoted_escapedAs {escaped : List Char} (h : Json.EscapedAs c escaped)
    (behind : ∃ h, readQuoted '"' r = some (s, ⟨rest, h⟩)) :
    ∃ h, readQuoted '"' (escaped ++ r) = some (c :: s, ⟨rest, h⟩) := by
  cases h with
  | self quote backslash control =>
    have oneLine : c ≠ '\n' ∧ c ≠ '\r' := by
      constructor
      all_goals
        rintro rfl
        exact control (by decide)
    exact readQuoted_plain_cons (by simp [isPlain, quote, backslash, oneLine]) behind
  | letter h => exact readQuoted_escape (by decide) (readEscape_letter h r) behind
  | digits control => exact readQuoted_escape (by decide) (readEscape_control control r) behind

/-- The characters of a JSON string are read back up to the closing quote. -/
lemma readQuoted_escaped (s rest : List Char) :
    ∃ h, readQuoted '"' (s.flatMap Json.escapeChar ++ '"' :: rest) = some (s, ⟨rest, h⟩) := by
  induction s with
  | nil => exact readQuoted_close '"' rest
  | cons c s ih =>
    rw [List.flatMap_cons, List.append_assoc]
    exact readQuoted_escapedAs (Json.escapedAs_escapeChar c) ih

end reading

end TypeScript

end OperationHooks
