import Mathlib.Data.List.Forall2
import Mathlib.Tactic.Common
import OperationHooks.Json.Printer
import OperationHooks.Json.Reader
import OperationHooks.Proofs.Json.Members
import OperationHooks.Proofs.Text.Joining
import OperationHooks.Proofs.Text.Stops

/-!
# Reading what was printed

The text of a value without floats is read as that value, wherever it stands: it may have blanks in
front, and anything behind it that a number does not go on with.
-/

namespace OperationHooks

namespace Json

/-! ### Values -/

mutual

/-- A value without floats: nothing in it is torn, and no object has a key twice. -/
def FloatFree : Json → Prop
  | float _ => False
  | torn _ => False
  | arr items => AllFloatFree items
  | obj members => (members.map (·.1)).Nodup ∧ MembersFloatFree members
  | _ => True

/-- Values without floats. -/
def AllFloatFree : List Json → Prop
  | [] => True
  | v :: vs => v.FloatFree ∧ AllFloatFree vs

/-- Members whose values are without floats. -/
def MembersFloatFree : List (String × Json) → Prop
  | [] => True
  | (_, v) :: ms => v.FloatFree ∧ MembersFloatFree ms

end

mutual

/-- Without a limit everything fits. -/
lemma fits_none (v : Json) : v.Fits none := by
  match v with
  | int n =>
    rintro longest ⟨⟩
  | arr items => exact allFit_none items
  | obj members => exact membersFit_none members
  | null | bool _ | float _ | str _ | torn _ => trivial

lemma allFit_none (vs : List Json) : AllFit none vs := by
  match vs with
  | [] => trivial
  | v :: vs => exact ⟨fits_none v, allFit_none vs⟩

lemma membersFit_none (ms : List (String × Json)) : MembersFit none ms := by
  match ms with
  | [] => trivial
  | (_, v) :: ms => exact ⟨fits_none v, membersFit_none ms⟩

end

variable {longest? : Option Nat}

/-! ### Strings -/

/-- The letters that stand for a character behind a backslash. -/
def letterEscapes : List (Char × Char) :=
  [('"', '"'), ('\\', '\\'), ('n', '\n'), ('r', '\r'), ('t', '\t'), ('f', '\x0c'), ('b', '\x08')]

/-- The ways in which a character is written in a string. -/
inductive EscapedAs (c : Char) : List Char → Prop
  | self (quote : c ≠ '"') (backslash : c ≠ '\\') (control : ¬c.toNat < 0x20) : EscapedAs c [c]
  | letter {l : Char} (h : (l, c) ∈ letterEscapes) : EscapedAs c ['\\', l]
  | digits (control : c.toNat < 0x20) :
    EscapedAs c ['\\', 'u', '0', '0', hexDigitLower (c.toNat / 16), hexDigitLower (c.toNat % 16)]

lemma escapedAs_escapeChar (c : Char) : EscapedAs c (escapeChar c) := by
  rw [escapeChar]
  split_ifs with h₁ h₂ h₃ h₄ h₅ h₆ h₇ h₈
  · exact .letter (by simp [letterEscapes, h₁])
  · exact .letter (by simp [letterEscapes, h₂])
  · exact .letter (by simp [letterEscapes, h₃])
  · exact .letter (by simp [letterEscapes, h₄])
  · exact .letter (by simp [letterEscapes, h₅])
  · exact .letter (by simp [letterEscapes, h₆])
  · exact .letter (by simp [letterEscapes, h₇])
  · exact .digits h₈
  · exact .self h₁ h₂ h₈

lemma readString_close (rest : List Char) : ∃ h, readString ('"' :: rest) = some ([], ⟨rest, h⟩) := by
  rw [readString]
  exact ⟨by simp, rfl⟩

/-- An escape in front of a string. -/
lemma readString_escape {cs r : List Char} {x : StringPart} {s : List StringPart} {rest : List Char}
    (escape : ∃ h, readEscape cs = some (x, ⟨r, h⟩))
    (behind : ∃ h, readString r = some (s, ⟨rest, h⟩)) :
    ∃ h, readString ('\\' :: cs) = some (x :: s, ⟨rest, h⟩) := by
  obtain ⟨h, escape⟩ := escape
  obtain ⟨h', behind⟩ := behind
  refine ⟨by simp only [List.length_cons]; omega, ?_⟩
  rw [readString, if_neg (by decide), if_pos rfl, escape]
  simp [behind]

/-- A character that stands for itself in front of a string. -/
lemma readString_char {c : Char} {r : List Char} {s : List StringPart} {rest : List Char}
    (quote : c ≠ '"') (backslash : c ≠ '\\') (control : ¬c.toNat < 0x20)
    (behind : ∃ h, readString r = some (s, ⟨rest, h⟩)) :
    ∃ h, readString (c :: r) = some (some c :: s, ⟨rest, h⟩) := by
  obtain ⟨h, behind⟩ := behind
  refine ⟨by simp only [List.length_cons]; omega, ?_⟩
  rw [readString, if_neg quote, if_neg backslash, if_neg control, behind]
  rfl

lemma readEscape_letter {l c : Char} (h : (l, c) ∈ letterEscapes) (r : List Char) :
    ∃ h, readEscape (l :: r) = some (some c, ⟨r, h⟩) := by
  have meaning : ∀ p ∈ letterEscapes, p.1 ≠ 'u' ∧ simpleEscape? p.1 = some p.2 := by decide
  obtain ⟨other, means⟩ := meaning _ h
  refine ⟨by simp, ?_⟩
  rw [readEscape]
  · rw [means]
    rfl
  · rintro _ _ _ _ _ rfl
    exact absurd rfl other

/-- A control character is what its four digits spell. -/
lemma hexQuad?_control {c : Char} (control : c.toNat < 0x20) :
    hexQuad? '0' '0' (hexDigitLower (c.toNat / 16)) (hexDigitLower (c.toNat % 16)) =
      some c.toNat := by
  generalize c.toNat = n at control
  revert n
  decide

lemma readEscape_control {c : Char} (control : c.toNat < 0x20) (r : List Char) :
    ∃ h, readEscape ('u' :: '0' :: '0' :: hexDigitLower (c.toNat / 16) ::
      hexDigitLower (c.toNat % 16) :: r) = some (some c, ⟨r, h⟩) := by
  refine ⟨by simp only [List.length_cons]; omega, ?_⟩
  rw [readEscape, hexQuad?_control control]
  simp only [scalar?_toNat]

/-- What is written for a character is read as the character. -/
lemma readString_escapedAs {c : Char} {cs r : List Char} {s : List StringPart} {rest : List Char}
    (escaped : EscapedAs c cs) (behind : ∃ h, readString r = some (s, ⟨rest, h⟩)) :
    ∃ h, readString (cs ++ r) = some (some c :: s, ⟨rest, h⟩) := by
  cases escaped with
  | self quote backslash control => exact readString_char quote backslash control behind
  | letter h => exact readString_escape (readEscape_letter h r) behind
  | digits control => exact readString_escape (readEscape_control control r) behind

/-- The characters of a string are read back up to the closing quote. -/
lemma readString_escaped (s rest : List Char) :
    ∃ h, readString (s.flatMap escapeChar ++ '"' :: rest) = some (s.map some, ⟨rest, h⟩) := by
  induction s with
  | nil => exact readString_close rest
  | cons c s ih =>
    rw [List.flatMap_cons, List.append_assoc]
    exact readString_escapedAs (escapedAs_escapeChar c) ih

lemma wholeText?_map_some (s : List Char) : wholeText? (s.map some) = some (String.ofList s) := by
  have whole : (s.map some).mapM id = some s := by
    induction s with
    | nil => rfl
    | cons c s ih => simp [ih]
  rw [wholeText?, whole]
  rfl

/-! ### Integers -/

/-- A character that a number goes on with. -/
def isNumberPart (c : Char) : Bool := c.isDigit || c == '.' || c == 'e' || c == 'E'

lemma digitsValue_toDigits (n : Nat) : digitsValue (Nat.toDigits 10 n) = n := by
  have same (ds : List Char) : digitsValue ds = Nat.ofDigitChars 10 ds 0 := by
    simp only [digitsValue, Nat.ofDigitChars, Nat.mul_comm]
    rfl
  rw [same, Nat.ofDigitChars_ten_toDigits]

/-- A number that starts with a zero is zero. -/
lemma toDigits_eq_zero_cons {n : Nat} {more : List Char} (h : Nat.toDigits 10 n = '0' :: more) :
    more = [] := by
  induction n using Nat.strongRecOn generalizing more with
  | ind n ih =>
    by_cases small : n < 10
    · rw [Nat.toDigits_of_lt_base small] at h
      exact (List.cons.inj h).2.symm
    · rw [Nat.toDigits_of_base_le (by decide) (by omega)] at h
      obtain ⟨d, ds, hd⟩ := List.exists_cons_of_ne_nil (Nat.toDigits_ne_nil (n := n / 10) (b := 10))
      rw [hd, List.cons_append, List.cons.injEq] at h
      obtain ⟨rfl, -⟩ := h
      have nothing := ih (n / 10) (by omega) hd
      have zero := digitsValue_toDigits (n / 10)
      rw [hd, nothing] at zero
      simp [digitsValue] at zero
      omega

lemma readFraction_of_stops {rest : List Char} (h : Stops isNumberPart rest) :
    readFraction rest = (none, NoLonger.all rest) := by
  rw [readFraction]
  rintro r rfl
  exact absurd (stops_cons.mp h) (by decide)

lemma readExponent_of_stops {rest : List Char} (h : Stops isNumberPart rest) :
    readExponent rest = (none, NoLonger.all rest) := by
  cases rest with
  | nil => rfl
  | cons c r =>
    have other := stops_cons.mp h
    rw [readExponent, if_neg]
    rintro (rfl | rfl)
    · exact absurd other (by decide)
    · exact absurd other (by decide)

/-- Where a number does not go on behind its digits, they are read as what they spell, or they are
too many. -/
lemma readNumber_digits (negative : Bool) {c : Char} {more rest : List Char}
    (digits : ∀ d ∈ c :: more, d.isDigit = true) (single : c = '0' → more = [])
    (stop : Stops isNumberPart rest) :
    ∃ h, readNumber longest? negative (c :: (more ++ rest)) =
      if longest?.any (· < (c :: more).length) then .error (.longInteger (c :: more).length)
      else .ok (.int (if negative then -digitsValue (c :: more) else digitsValue (c :: more)),
        ⟨rest, h⟩) := by
  have noDigit : Stops Char.isDigit rest := stop.imp fun d hd => by simp [isNumberPart, hd]
  have taken : ∃ h, (if c = '0' then ([], NoLonger.all (more ++ rest))
      else readDigits (more ++ rest)) = (more, ⟨rest, h⟩) := by
    refine ⟨by simp, ?_⟩
    -- behind a zero no digits are taken, and none are there
    split_ifs with zero
    · rw [single zero]
      rfl
    · obtain ⟨front, back⟩ :=
        takeWhile_append_stops (fun d hd => digits d (List.mem_cons_of_mem _ hd)) noDigit
      simp only [readDigits, front, back]
  obtain ⟨h, taken⟩ := taken
  refine ⟨by simp only [List.length_cons, List.length_append]; omega, ?_⟩
  rw [readNumber, if_pos (digits c List.mem_cons_self), taken]
  dsimp only
  rw [readFraction_of_stops stop]
  simp only [NoLonger.all, readExponent_of_stops stop]
  rfl

lemma readNumber_toDigits (negative : Bool) {n : Nat}
    (fits : ∀ longest ∈ longest?, (Nat.toDigits 10 n).length ≤ longest) {rest : List Char}
    (stop : Stops isNumberPart rest) :
    ∃ h, readNumber longest? negative (Nat.toDigits 10 n ++ rest) =
      .ok (.int (if negative then -n else n), ⟨rest, h⟩) := by
  obtain ⟨c, more, spelled⟩ := List.exists_cons_of_ne_nil (Nat.toDigits_ne_nil (n := n) (b := 10))
  have value : digitsValue (c :: more) = n := spelled ▸ digitsValue_toDigits n
  have digits : ∀ d ∈ c :: more, d.isDigit = true := by
    intro d hd
    exact Nat.isDigit_of_mem_toDigits (by decide) (by decide) (spelled ▸ hd)
  have single : c = '0' → more = [] := by
    rintro rfl
    exact toDigits_eq_zero_cons spelled
  have short : longest?.any (· < (c :: more).length) = false := by
    rw [spelled] at fits
    cases longest? with
    | none => rfl
    | some longest => simpa using fits longest rfl
  obtain ⟨h, read⟩ := @readNumber_digits longest? negative _ _ _ digits single stop
  rw [short, if_neg Bool.false_ne_true, value] at read
  rw [spelled]
  exact ⟨h, read⟩

/-! ### Marks and words -/

section Marks

variable {b : List Char} {c : Char}

lemma dropBlanks_blanks (blanks : b.all isBlank = true) (other : isBlank c = false)
    (r : List Char) : ∃ h, dropBlanks (b ++ c :: r) = ⟨c :: r, h⟩ := by
  have stop : Stops isBlank (c :: r) := stops_cons.mpr other
  exact ⟨by simp, Subtype.ext (takeWhile_append_stops (List.all_eq_true.mp blanks) stop).2⟩

lemma readMark_self (mark : Char) (blanks : b.all isBlank = true)
    (other : isBlank mark = false) (r : List Char) : ∃ h, readMark mark (b ++ mark :: r) = some ⟨r, h⟩ := by
  obtain ⟨h, dropped⟩ := dropBlanks_blanks blanks other r
  refine ⟨by simp only [List.length_append, List.length_cons]; omega, ?_⟩
  rw [readMark, dropped]
  simp

lemma readMark_of_ne {mark : Char} (blanks : b.all isBlank = true) (other : isBlank c = false)
    (ne : c ≠ mark) (r : List Char) : readMark mark (b ++ c :: r) = none := by
  obtain ⟨h, dropped⟩ := dropBlanks_blanks blanks other r
  rw [readMark, dropped]
  simp [ne]

/-- A mark in front is taken. -/
lemma readMark_cons (mark : Char) (other : isBlank mark = false) (r : List Char) :
    ∃ h, readMark mark (mark :: r) = some ⟨r, h⟩ :=
  readMark_self mark (b := []) (by simp) other r

lemma readMark_cons_of_ne (c mark : Char) (other : isBlank c = false) (ne : c ≠ mark)
    (r : List Char) :
    readMark mark (c :: r) = none :=
  readMark_of_ne (b := []) (by simp) other ne r

end Marks

/-- No word starts with a digit, or with a sign before a digit. -/
lemma readWord_digit {c : Char} (digit : c.isDigit = true) (r : List Char) :
    readWord (c :: r) = none ∧ readWord ('-' :: c :: r) = none := by
  have other {w : Char} (h : w.isDigit = false) : w ≠ c := by
    rintro rfl
    simp [digit] at h
  constructor
  · simp [readWord, dropWord, other]
  · simp [readWord, dropWord, other]

lemma toList_text_ofNat (m : Nat) : (int (.ofNat m)).text.toList = Nat.toDigits 10 m :=
  Nat.toList_repr

lemma toList_text_negSucc (m : Nat) :
    (int (.negSucc m)).text.toList = '-' :: Nat.toDigits 10 (m + 1) := by
  have sign : (int (.negSucc m)).text = "-" ++ (m + 1).repr := rfl
  rw [sign, String.toList_append, Nat.toList_repr]
  rfl

lemma exists_toDigits (m : Nat) : ∃ c more, Nat.toDigits 10 m = c :: more ∧ c.isDigit = true := by
  obtain ⟨c, more, h⟩ := List.exists_cons_of_ne_nil (Nat.toDigits_ne_nil (n := m) (b := 10))
  exact ⟨c, more, h, Nat.isDigit_of_mem_toDigits (by decide) (by decide) (h ▸ List.mem_cons_self)⟩

/-- The text of an integer is read as the integer. -/
lemma readPlain_int {n : Int} (fits : (int n).Fits longest?) {rest : List Char}
    (stop : Stops isNumberPart rest) :
    ∃ h, readPlain longest? ((int n).text.toList ++ rest) = .ok (.int n, ⟨rest, h⟩) := by
  cases n with
  | ofNat m =>
    obtain ⟨c, more, spelled, digit⟩ := exists_toDigits m
    have read := readNumber_toDigits (n := m) false fits stop
    rw [spelled, List.cons_append] at read
    rw [toList_text_ofNat, spelled, List.cons_append]
    obtain ⟨h, read⟩ := read
    refine ⟨h, ?_⟩
    rw [readPlain, (readWord_digit digit _).1, readSigned]
    · exact read
    · rintro r ⟨⟩
      exact absurd digit (by decide)
  | negSucc m =>
    obtain ⟨c, more, spelled, digit⟩ := exists_toDigits (m + 1)
    have read := readNumber_toDigits (n := m + 1) true fits stop
    rw [spelled, List.cons_append] at read
    rw [toList_text_negSucc, spelled, List.cons_append, List.cons_append]
    obtain ⟨h, read⟩ := read
    refine ⟨Nat.lt_succ_of_lt h, ?_⟩
    rw [readPlain, (readWord_digit digit _).2, readSigned, read]
    rfl

/-! ### Values where they stand -/

/-- A character that the text of a value starts with. -/
def startsValue (c : Char) : Bool :=
  c.isDigit || ['"', '[', '\x7b', '-', 'n', 't', 'f'].contains c

lemma not_startsValue {c : Char} (h : isBlank c = true ∨ c = ']') : startsValue c = false := by
  simp only [isBlank, Bool.or_eq_true, beq_iff_eq] at h
  rcases h with (((rfl | rfl) | rfl) | rfl) | rfl <;> decide

lemma startsValue_spec {c : Char} (h : startsValue c = true) : isBlank c = false ∧ c ≠ ']' := by
  rw [← Bool.not_eq_true, ← not_or]
  intro other
  rw [not_startsValue other] at h
  exact absurd h (by decide)

/-- The text of a value starts with the value. -/
lemma exists_text_cons {v : Json} (h : v.FloatFree) :
    ∃ c r, v.text.toList = c :: r ∧ startsValue c = true := by
  cases v with
  | null => exact ⟨_, _, rfl, rfl⟩
  | bool b => cases b <;> exact ⟨_, _, rfl, rfl⟩
  | int n =>
    cases n with
    | ofNat m =>
      obtain ⟨c, more, spelled, digit⟩ := exists_toDigits m
      exact ⟨c, more, toList_text_ofNat m ▸ spelled, by simp [startsValue, digit]⟩
    | negSucc m => exact ⟨_, _, toList_text_negSucc m, rfl⟩
  | float x => exact absurd h (by simp [FloatFree])
  | str s => exact ⟨_, _, by rw [text, stringText, String.append_assoc, String.toList_append]; rfl, rfl⟩
  | arr items => exact ⟨_, _, by rw [text, String.append_assoc, String.toList_append]; rfl, rfl⟩
  | obj members => exact ⟨_, _, by rw [text, String.append_assoc, String.toList_append]; rfl, rfl⟩
  | torn s => exact absurd h (by simp [FloatFree])

section Values

variable {b : List Char} {c : Char} {r rest : List Char}

/-- A value that is neither a string nor an array nor an object. -/
lemma readValue_plain {v : Json} (blanks : b.all isBlank = true) (other : isBlank c = false)
    (plain : c ∉ ['"', '[', '\x7b']) (read : ∃ h, readPlain longest? (c :: r) = .ok (v, ⟨rest, h⟩)) :
    ∃ h, readValue longest? (b ++ c :: r) = .ok (v, ⟨rest, h⟩) := by
  simp only [List.mem_cons, List.not_mem_nil, or_false, not_or] at plain
  obtain ⟨quote, bracket, brace⟩ := plain
  obtain ⟨h, dropped⟩ := dropBlanks_blanks blanks other r
  obtain ⟨h', read⟩ := read
  refine ⟨by omega, ?_⟩
  rw [readValue, readMark_of_ne blanks other quote, readMark_of_ne blanks other bracket,
    readMark_of_ne blanks other brace, dropped]
  simp only [read]
  rfl

lemma ofString_map_some (s : String) (cs rest : List Char) :
    ofString cs rest (s.toList.map some) = .str s := by
  rw [ofString, wholeText?_map_some, String.ofList_toList]

lemma readValue_string {s : String} (blanks : b.all isBlank = true)
    (read : ∃ h, readString r = some (s.toList.map some, ⟨rest, h⟩)) :
    ∃ h, readValue longest? (b ++ '"' :: r) = .ok (.str s, ⟨rest, h⟩) := by
  obtain ⟨h, mark⟩ := readMark_self '"' blanks (by decide) r
  obtain ⟨h', read⟩ := read
  refine ⟨by omega, ?_⟩
  rw [readValue, mark]
  simp only [read, needed]
  exact congrArg (fun v => Except.ok (v, _)) (ofString_map_some s _ _)

lemma readValue_array_nil (blanks : b.all isBlank = true) (rest : List Char) :
    ∃ h, readValue longest? (b ++ '[' :: ']' :: rest) = .ok (.arr [], ⟨rest, h⟩) := by
  obtain ⟨h, mark⟩ := readMark_self '[' blanks (by decide) (']' :: rest)
  obtain ⟨h', close⟩ := readMark_cons ']' (by decide) rest
  refine ⟨by omega, ?_⟩
  rw [readValue, readMark_of_ne blanks (by decide) (by decide), mark]
  simp only [close]

lemma readValue_array {items : List Json} (blanks : b.all isBlank = true)
    (starts : startsValue c = true)
    (read : ∃ h, readItems longest? (c :: r) = .ok (items, ⟨rest, h⟩)) :
    ∃ h, readValue longest? (b ++ '[' :: c :: r) = .ok (.arr items, ⟨rest, h⟩) := by
  obtain ⟨other, ne⟩ := startsValue_spec starts
  obtain ⟨h, mark⟩ := readMark_self '[' blanks (by decide) (c :: r)
  have noClose := readMark_cons_of_ne c ']' other ne r
  obtain ⟨h', read⟩ := read
  refine ⟨by omega, ?_⟩
  rw [readValue, readMark_of_ne blanks (by decide) (by decide), mark]
  simp only [noClose, read]
  rfl

lemma readValue_object_nil (blanks : b.all isBlank = true) (rest : List Char) :
    ∃ h, readValue longest? (b ++ '\x7b' :: '\x7d' :: rest) = .ok (.obj [], ⟨rest, h⟩) := by
  obtain ⟨h, mark⟩ := readMark_self '\x7b' blanks (by decide) ('\x7d' :: rest)
  obtain ⟨h', close⟩ := readMark_cons '\x7d' (by decide) rest
  refine ⟨by omega, ?_⟩
  rw [readValue, readMark_of_ne blanks (by decide) (by decide),
    readMark_of_ne blanks (by decide) (by decide), mark]
  simp only [close]

/-- Members as they are read, before their keys are known to be texts. -/
def asRead (ms : List (String × Json)) : List (List StringPart × Json) :=
  ms.map fun m => (m.1.toList.map some, m.2)

lemma mapM_asRead {f : List StringPart × Json → Option (String × Json)}
    (whole : ∀ key v, f (key.toList.map some, v) = some (key, v)) (ms : List (String × Json)) :
    (asRead ms).mapM f = some ms := by
  induction ms with
  | nil => rfl
  | cons m ms ih =>
    rw [asRead, List.map_cons, List.mapM_cons, whole, ← asRead, ih]
    rfl

lemma ofMembers_asRead {ms : List (String × Json)} (distinct : (ms.map (·.1)).Nodup)
    (cs rest : List Char) : ofMembers cs rest (asRead ms) = .obj ms := by
  rw [ofMembers, mapM_asRead]
  · dsimp only
    rw [collectMembers_of_nodup distinct]
  · intro key v
    dsimp only
    rw [wholeText?_map_some, String.ofList_toList]
    rfl

lemma readValue_object {ms : List (String × Json)} (blanks : b.all isBlank = true)
    (distinct : (ms.map (·.1)).Nodup)
    (read : ∃ h, readMembers longest? ('"' :: r) = .ok (asRead ms, ⟨rest, h⟩)) :
    ∃ h, readValue longest? (b ++ '\x7b' :: '"' :: r) = .ok (.obj ms, ⟨rest, h⟩) := by
  obtain ⟨h, mark⟩ := readMark_self '\x7b' blanks (by decide) ('"' :: r)
  have noClose := readMark_cons_of_ne '"' '\x7d' (by decide) (by decide) r
  obtain ⟨h', read⟩ := read
  refine ⟨by omega, ?_⟩
  rw [readValue, readMark_of_ne blanks (by decide) (by decide),
    readMark_of_ne blanks (by decide) (by decide), mark]
  simp only [noClose, read]
  exact congrArg (fun v => Except.ok (v, _)) (ofMembers_asRead distinct _ _)

end Values

/-! ### Items and members -/

section Lists

variable {b cs r rest : List Char} {v : Json}

/-- What has been read is handed on. -/
lemma ok_bind {α β : Type} (x : α) (f : α → Attempt β) : (Except.ok x >>= f) = f x := rfl

lemma readItems_last (read : ∃ h, readValue longest? cs = .ok (v, ⟨']' :: rest, h⟩)) :
    ∃ h, readItems longest? cs = .ok ([v], ⟨rest, h⟩) := by
  obtain ⟨h, read⟩ := read
  obtain ⟨h', close⟩ := readMark_cons ']' (by decide) rest
  have noComma := readMark_cons_of_ne ']' ',' (by decide) (by decide) rest
  refine ⟨by omega, ?_⟩
  rw [readItems, read, ok_bind]
  simp only [noComma, close, needed]
  rfl

lemma readItems_cons {vs : List Json} (read : ∃ h, readValue longest? cs = .ok (v, ⟨',' :: r, h⟩))
    (behind : ∃ h, readItems longest? r = .ok (vs, ⟨rest, h⟩)) :
    ∃ h, readItems longest? cs = .ok (v :: vs, ⟨rest, h⟩) := by
  obtain ⟨h, read⟩ := read
  obtain ⟨h', behind⟩ := behind
  obtain ⟨h'', comma⟩ := readMark_cons ',' (by decide) r
  refine ⟨by omega, ?_⟩
  rw [readItems, read, ok_bind]
  simp only [comma, behind]
  rfl

/-- A member up to its value, as it is written behind blanks. -/
def memberFront (b : List Char) (key : String) : List Char :=
  b ++ '"' :: (key.toList.flatMap escapeChar ++ ['"', ':'])

/-- The key of a member is read, and what is left is the value. -/
lemma readMembers_front (blanks : b.all isBlank = true) (key : String) (cs : List Char) :
    ∃ r₁ h₁ r₂ h₂ h₃, readMark '"' (memberFront b key ++ cs) = some ⟨r₁, h₁⟩ ∧
      readString r₁ = some (key.toList.map some, ⟨r₂, h₂⟩) ∧
      readMark ':' r₂ = some ⟨cs, h₃⟩ := by
  have front : memberFront b key ++ cs =
      b ++ '"' :: (key.toList.flatMap escapeChar ++ '"' :: (':' :: cs)) := by
    simp [memberFront]
  obtain ⟨h₁, quote⟩ := readMark_self '"' blanks (by decide)
    (key.toList.flatMap escapeChar ++ '"' :: (':' :: cs))
  obtain ⟨h₂, read⟩ := readString_escaped key.toList (':' :: cs)
  obtain ⟨h₃, colon⟩ := readMark_cons ':' (by decide) cs
  rw [front]
  exact ⟨_, h₁, _, h₂, h₃, quote, read, colon⟩

lemma readMembers_last {key : String} (blanks : b.all isBlank = true)
    (read : ∃ h, readValue longest? cs = .ok (v, ⟨'\x7d' :: rest, h⟩)) :
    ∃ h, readMembers longest? (memberFront b key ++ cs) = .ok (asRead [(key, v)], ⟨rest, h⟩) := by
  obtain ⟨r₁, h₁, r₂, h₂, h₃, quote, name, colon⟩ := readMembers_front blanks key cs
  obtain ⟨h, read⟩ := read
  obtain ⟨h', close⟩ := readMark_cons '\x7d' (by decide) rest
  have noComma := readMark_cons_of_ne '\x7d' ',' (by decide) (by decide) rest
  refine ⟨by omega, ?_⟩
  rw [readMembers, quote]
  simp only [needed, ok_bind, name, colon, read, noComma, close]
  rfl

lemma readMembers_cons {key : String} {ms : List (String × Json)}
    (blanks : b.all isBlank = true)
    (read : ∃ h, readValue longest? cs = .ok (v, ⟨',' :: r, h⟩))
    (behind : ∃ h, readMembers longest? r = .ok (asRead ms, ⟨rest, h⟩)) :
    ∃ h, readMembers longest? (memberFront b key ++ cs) = .ok (asRead ((key, v) :: ms), ⟨rest, h⟩) := by
  obtain ⟨r₁, h₁, r₂, h₂, h₃, quote, name, colon⟩ := readMembers_front blanks key cs
  obtain ⟨h, read⟩ := read
  obtain ⟨h', behind⟩ := behind
  obtain ⟨h'', comma⟩ := readMark_cons ',' (by decide) r
  refine ⟨by omega, ?_⟩
  rw [readMembers, quote]
  simp only [needed, ok_bind, name, colon, read, comma, behind]
  rfl

end Lists

/-! ### Whole values -/

/-- The text of a member, behind blanks. -/
lemma toList_memberText (b : List Char) (key : String) (v : Json) (rest : List Char) :
    b ++ ((stringText key ++ ": " ++ v.text).toList ++ rest) =
      memberFront b key ++ ([' '] ++ (v.text.toList ++ rest)) := by
  simp [stringText, memberFront]

lemma toList_text_str (s : String) (rest : List Char) :
    (str s).text.toList ++ rest = '"' :: (s.toList.flatMap escapeChar ++ '"' :: rest) := by
  simp [text, stringText]

lemma toList_text_arr_nil (rest : List Char) : (arr []).text.toList ++ rest = '[' :: ']' :: rest := by
  simp [text, texts]

lemma toList_text_arr (v : Json) (vs : List Json) (rest : List Char) :
    (arr (v :: vs)).text.toList ++ rest =
      '[' :: (v.text.toList ++ (joinedBehind ", " (texts vs) ++ ']' :: rest)) := by
  rw [text, texts, String.toList_append, String.toList_append, toList_intercalate_cons]
  simp

lemma toList_text_obj_nil (rest : List Char) :
    (obj []).text.toList ++ rest = '\x7b' :: '\x7d' :: rest := by
  simp [text, memberTexts]

lemma toList_text_obj (key : String) (v : Json) (ms : List (String × Json)) (rest : List Char) :
    (obj ((key, v) :: ms)).text.toList ++ rest =
      '\x7b' :: (memberFront [] key
        ++ ([' '] ++ (v.text.toList ++ (joinedBehind ", " (memberTexts ms) ++ '\x7d' :: rest)))) := by
  rw [← toList_memberText, text, memberTexts, String.toList_append, String.toList_append,
    toList_intercalate_cons]
  simp

lemma readValue_int {b rest : List Char} (blanks : b.all isBlank = true) {n : Int}
    (fits : (int n).Fits longest?) (stop : Stops isNumberPart rest) :
    ∃ h, readValue longest? (b ++ ((int n).text.toList ++ rest)) = .ok (.int n, ⟨rest, h⟩) := by
  have read := readPlain_int fits stop
  cases n with
  | ofNat m =>
    obtain ⟨c, more, spelled, digit⟩ := exists_toDigits m
    rw [toList_text_ofNat, spelled, List.cons_append] at read ⊢
    have starts : startsValue c = true := by simp [startsValue, digit]
    refine readValue_plain blanks (startsValue_spec starts).1 ?_ read
    simp only [List.mem_cons, List.not_mem_nil, or_false]
    rintro (rfl | rfl | rfl) <;> exact absurd digit (by decide)
  | negSucc m =>
    rw [toList_text_negSucc, List.cons_append] at read ⊢
    exact readValue_plain blanks (by decide) (by decide) read

mutual

/-- The text of a value is read as the value, behind blanks and in front of anything that a number
does not go on with. -/
theorem readValue_text {v : Json} (h : v.FloatFree) (fits : v.Fits longest?) {b rest : List Char}
    (blanks : b.all isBlank = true) (stop : Stops isNumberPart rest) :
    ∃ h, readValue longest? (b ++ (v.text.toList ++ rest)) = .ok (v, ⟨rest, h⟩) := by
  match v with
  | null => exact readValue_plain blanks (by decide) (by decide) ⟨by simp; omega, rfl⟩
  | bool true => exact readValue_plain blanks (by decide) (by decide) ⟨by simp; omega, rfl⟩
  | bool false => exact readValue_plain blanks (by decide) (by decide) ⟨by simp; omega, rfl⟩
  | int n => exact readValue_int blanks fits stop
  | str s =>
    rw [toList_text_str]
    exact readValue_string blanks (readString_escaped s.toList rest)
  | arr [] =>
    rw [toList_text_arr_nil]
    exact readValue_array_nil blanks rest
  | arr (v :: vs) =>
    have read := readItems_texts h fits (b := []) (by simp) rest
    obtain ⟨c, r, spelled, starts⟩ := exists_text_cons h.1
    -- the first item is what tells the array from an empty one
    rw [toList_text_arr, spelled, List.cons_append]
    rw [spelled, List.nil_append, List.cons_append] at read
    exact readValue_array blanks starts read
  | obj [] =>
    rw [toList_text_obj_nil]
    exact readValue_object_nil blanks rest
  | obj ((key, v) :: ms) =>
    have read := readMembers_texts h.2 fits (b := []) (by simp) rest
    rw [toList_text_obj]
    rw [memberFront, List.nil_append, List.cons_append] at read ⊢
    exact readValue_object blanks h.1 read
termination_by sizeOf v

/-- Items joined by commas are read up to the closing bracket. -/
theorem readItems_texts {v : Json} {vs : List Json} (h : AllFloatFree (v :: vs))
    (fits : AllFit longest? (v :: vs)) {b : List Char} (blanks : b.all isBlank = true) (rest : List Char) :
    ∃ h, readItems longest? (b ++ (v.text.toList ++ (joinedBehind ", " (texts vs) ++ ']' :: rest))) =
      .ok (v :: vs, ⟨rest, h⟩) := by
  match vs with
  | [] =>
    rw [texts, joinedBehind_nil, List.nil_append]
    exact readItems_last (readValue_text h.1 fits.1 blanks (stops_cons.mpr (by decide)))
  | w :: ws =>
    have behind := readItems_texts h.2 fits.2 (b := [' ']) (by decide) rest
    rw [texts, joinedBehind_comma_cons]
    exact readItems_cons (readValue_text h.1 fits.1 blanks (stops_cons.mpr (by decide))) behind
termination_by sizeOf (v :: vs)

/-- Members joined by commas are read up to the closing brace. -/
theorem readMembers_texts {key : String} {v : Json} {ms : List (String × Json)}
    (h : MembersFloatFree ((key, v) :: ms)) (fits : MembersFit longest? ((key, v) :: ms))
    {b : List Char}
    (blanks : b.all isBlank = true) (rest : List Char) :
    ∃ h, readMembers longest? (memberFront b key
        ++ ([' '] ++ (v.text.toList ++ (joinedBehind ", " (memberTexts ms) ++ '\x7d' :: rest)))) =
      .ok (asRead ((key, v) :: ms), ⟨rest, h⟩) := by
  match ms with
  | [] =>
    rw [memberTexts, joinedBehind_nil, List.nil_append]
    exact readMembers_last blanks
      (readValue_text h.1 fits.1 (by decide) (stops_cons.mpr (by decide)))
  | (key', w) :: ws =>
    have behind := readMembers_texts h.2 fits.2 (b := [' ']) (by decide) rest
    rw [memberTexts, joinedBehind_comma_cons, toList_memberText]
    exact readMembers_cons blanks (readValue_text h.1 fits.1 (by decide) (stops_cons.mpr (by decide)))
      behind
termination_by sizeOf ((key, v) :: ms)

end

/-- Reading takes back what printing has made of a value without floats, if its integers fit. -/
theorem read_text {v : Json} (h : v.FloatFree) (fits : v.Fits longest?) :
    read longest? v.text = .ok v := by
  have front := readValue_text h fits (b := []) (by simp) (stops_nil isNumberPart)
  rw [List.nil_append, List.append_nil] at front
  obtain ⟨_, front⟩ := front
  rw [read, front]
  rfl

/-! ### Texts that are no values -/

/-- What starts as no string, no array and no object does is read as a word or a number. -/
lemma readValue_eq_readPlain {c : Char} (other : isBlank c = false)
    (plain : c ∉ ['"', '[', '\x7b']) (r : List Char) :
    readValue longest? (c :: r) = readPlain longest? (c :: r) := by
  simp only [List.mem_cons, List.not_mem_nil, or_false, not_or] at plain
  obtain ⟨quote, bracket, brace⟩ := plain
  have dropped : dropBlanks (c :: r) = NoLonger.all (c :: r) :=
    Subtype.ext (List.dropWhile_cons_of_neg (by simp [other]))
  rw [readValue, readMark_cons_of_ne c _ other quote, readMark_cons_of_ne c _ other bracket,
    readMark_cons_of_ne c _ other brace, dropped]
  dsimp only [NoLonger.all]
  cases readPlain longest? (c :: r) with
  | error e => rfl
  | ok read => rfl

lemma read_of_error {s : String} {cs : List Char} {e : ReadFault} (spelled : s.toList = cs)
    (h : readValue longest? cs = .error e) : read longest? s = .error e := by
  subst spelled
  rw [read, h]

/-- What starts as no value does is no JSON. -/
lemma read_of_not_startsValue {s : String} {c : Char} {r : List Char} (spelled : s.toList = c :: r)
    (other : isBlank c = false) (h : startsValue c = false) (word : c ∉ ['N', 'I']) :
    read longest? s = .error .notJson := by
  simp only [startsValue, List.contains_eq_mem, List.mem_cons, List.not_mem_nil, or_false,
    Bool.or_eq_false_iff, decide_eq_false_iff_not, not_or] at h word
  obtain ⟨digit, quote, bracket, brace, minus, n, t, f⟩ := h
  have noWord : readWord (c :: r) = none := by
    simp [readWord, dropWord, Ne.symm, n, t, f, minus, word]
  have number : readSigned longest? (c :: r) = .error .notJson := by
    rw [readSigned, readNumber, if_neg (by simp [digit])]
    rintro r ⟨⟩
    exact minus rfl
  apply read_of_error spelled
  rw [readValue_eq_readPlain other (by simp [quote, bracket, brace]), readPlain, noWord, number]

/-- An integer of too many digits is a fault. -/
lemma read_tooLong {longest : Nat} {s : String} {c : Char} {more : List Char}
    (spelled : s.toList = c :: more) (digits : ∀ d ∈ c :: more, d.isDigit = true)
    (nonzero : c ≠ '0') (long : longest < (c :: more).length) :
    read (some longest) s = .error (.longInteger (c :: more).length) := by
  have digit := digits c List.mem_cons_self
  have other {d : Char} (hd : d.isDigit = false) : c ≠ d := by
    rintro rfl
    simp [digit] at hd
  have starts : startsValue c = true := by simp [startsValue, digit]
  have signed : readSigned (some longest) (c :: more) =
      .error (.longInteger (c :: more).length) := by
    rw [readSigned]
    · obtain ⟨_, number⟩ := @readNumber_digits (some longest) false c more [] digits
        (fun zero => absurd zero nonzero) (stops_nil _)
      rw [if_pos (by simpa using long), List.append_nil] at number
      exact number
    · rintro r ⟨⟩
      exact absurd digit (by decide)
  apply read_of_error spelled
  rw [readValue_eq_readPlain (startsValue_spec starts).1 (by simp [other]), readPlain,
    (readWord_digit digit more).1, signed]

end Json

end OperationHooks
