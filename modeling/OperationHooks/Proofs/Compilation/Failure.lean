import Mathlib.Algebra.Ring.Nat
import Mathlib.Data.List.TakeWhile
import OperationHooks.Proofs.Compilation.Run
import OperationHooks.Proofs.Fragments.Dependencies
import OperationHooks.Proofs.Json.Reading
import OperationHooks.Proofs.Text.Stops

/-!
# When nothing is generated

Generation fails on options that are refused, and on a custom fetcher whose text names no function.
Beyond these errors of configuration there is one more, which only a program can meet that puts its
options together itself: a request option with an integer that is too long to be written, and so too
long to be read. What the documents hold has no part in it: every fragment that is looked up is
there.
-/

namespace OperationHooks

/-! ### Texts that are no mappers -/

lemma strip_eq_nil_iff {cs : List Char} : strip cs = [] ↔ ∀ c ∈ cs, isBlankChar c = true := by
  rw [strip, List.reverse_eq_nil_iff, List.dropWhile_eq_nil_iff]
  simp only [List.mem_reverse]
  constructor
  · intro blank c hc
    rw [← List.takeWhile_append_dropWhile (p := isBlankChar) (l := cs), List.mem_append] at hc
    exact hc.elim List.mem_takeWhile_imp (blank c)
  · intro blank c hc
    exact blank c ((List.dropWhile_suffix _).mem hc)

namespace Mapper

/-- A text that is no mapper, and why: there is nothing but blanks in it, or nothing but blanks on
one side of its first separator. -/
inductive Malformed (text : String) : MapperError → Prop
  | empty (blank : strip text.toList = []) : Malformed text .empty
  | incomplete {before behind : List Char} (parts : strip text.toList = before ++ '#' :: behind)
      (first : '#' ∉ before)
      (blank : (∀ c ∈ before, isBlankChar c = true) ∨ ∀ c ∈ behind, isBlankChar c = true) :
    Malformed text (.incomplete (String.ofList (strip text.toList)))

/-- What a text with a separator is read as. -/
lemma read_separated {text : String} {before behind : List Char}
    (parts : strip text.toList = before ++ '#' :: behind) (first : '#' ∉ before) :
    read text =
      if strip before = [] ∨ strip behind = [] then
        .error (.incomplete (String.ofList (strip text.toList)))
      else .ok (ofParts (strip before) (strip behind)) := by
  have other : ∀ c ∈ before, (c != '#') = true := by
    intro c hc
    simpa using ne_of_mem_of_not_mem hc first
  have stops : Stops (· != '#') ('#' :: behind) := stops_cons.mpr rfl
  obtain ⟨front, back⟩ := takeWhile_append_stops other stops
  rw [read, parts]
  simp [front, back]

/-- A text is no mapper exactly for one of the two reasons. -/
lemma read_eq_error_iff {text : String} {e : MapperError} :
    read text = .error e ↔ Malformed text e := by
  constructor
  · intro failed
    by_cases blank : strip text.toList = []
    · rw [read, if_pos blank] at failed
      cases failed
      exact .empty blank
    by_cases separated : '#' ∈ strip text.toList
    · obtain ⟨before, behind, parts, first⟩ := List.eq_append_cons_of_mem separated
      rw [read_separated parts first] at failed
      split_ifs at failed with halfBlank
      cases failed
      rw [strip_eq_nil_iff, strip_eq_nil_iff] at halfBlank
      exact .incomplete parts first halfBlank
    · rw [read, if_neg blank, if_pos (by simpa using separated)] at failed
      cases failed
  · intro malformed
    cases malformed with
    | empty blank => rw [read, if_pos blank]
    | incomplete parts first blank =>
      rw [read_separated parts first, if_pos]
      rwa [strip_eq_nil_iff, strip_eq_nil_iff]

example : read " ./api # " = .error (.incomplete "./api #") := by decide

end Mapper

/-! ### Failing -/

/-- Only a custom fetcher may have no strategy, and only for its text. -/
lemma Strategy.ofFetcher_eq_error_iff {f : Fetcher} {e : StrategyError} :
    ofFetcher f = .error e ↔
      ∃ mapper isLazy reason, f = .custom mapper isLazy ∧ Mapper.Malformed mapper reason ∧
        e = .badMapper reason := by
  cases f with
  | custom mapper isLazy =>
    simp only [← Mapper.read_eq_error_iff]
    cases read : Mapper.read mapper with
    | ok m => simp [ofFetcher, read]
    | error reason => simp [ofFetcher, read, eq_comm]
  | _ => simp [ofFetcher]

/-- A helper that cannot be written is one with request options. -/
lemma Strategy.not_isWritable_iff {f : Fetcher} :
    (∃ s, ofFetcher f = .ok s ∧ ¬s.IsWritable) ↔
      ∃ endpoint params, f = .hardcoded endpoint params ∧
        ∃ o ∈ requestOptions params, ¬o.2.Fits (some longestInteger) := by
  constructor
  · rintro ⟨s, made, long⟩
    obtain ⟨endpoint, params, rfl, rfl⟩ | none := hardcoded_or_no_options made
    · refine ⟨endpoint, params, rfl, ?_⟩
      simpa [IsWritable, fixedOptions] using long
    · exact absurd (isWritable_of_no_options none) long
  · rintro ⟨endpoint, params, rfl, o, ho, long⟩
    exact ⟨_, rfl, fun writable => long (writable o ho)⟩

lemma generateWith_eq_error_iff {settings : Settings} {documents : List Document}
    {e : GenerationError} :
    generateWith settings documents = .error e ↔
      (∃ reason, Strategy.ofFetcher settings.fetcher = .error reason ∧ e = .noStrategy reason) ∨
        (∃ s, Strategy.ofFetcher settings.fetcher = .ok s ∧ ¬s.IsWritable) ∧
          e = .unwritten .longInteger := by
  rw [generateWith]
  cases Strategy.ofFetcher settings.fetcher with
  | error reason => simp [eq_comm]
  | ok s =>
    by_cases writable : s.IsWritable
    · simp [Strategy.writeHelper_of_isWritable writable, writable]
    · simp [Strategy.writeHelper_of_not_isWritable writable, writable, eq_comm]

/-- What is wrong with options that nothing is generated from. -/
inductive Unusable (options : Json) : GenerationError → Prop
  | refused {refusals : List Refusal} (refused : Decode.settings options = .refused refusals) :
    Unusable options (.refused refusals)
  | mapper {settings : Settings} {mapper : String} {isLazy : Bool} {reason : MapperError}
    (accepted : Decode.settings options = .accepted settings)
    (custom : settings.fetcher = .custom mapper isLazy)
    (malformed : Mapper.Malformed mapper reason) : Unusable options (.noStrategy (.badMapper reason))
  | longInteger {settings : Settings} {endpoint : String} {params : List (String × Json)}
    (accepted : Decode.settings options = .accepted settings)
    (hardcoded : settings.fetcher = .hardcoded endpoint params)
    (long : ∃ o ∈ Strategy.requestOptions params, ¬o.2.Fits (some longestInteger)) :
    Unusable options (.unwritten .longInteger)

/-- What generation fails on, told without the documents. -/
lemma generate_eq_error_iff {options : Json} {documents : List Document} {e : GenerationError} :
    generate options documents = .error e ↔ Unusable options e := by
  rw [generate]
  constructor
  · intro failed
    cases decoded : Decode.settings options with
    | refused refusals =>
      rw [decoded] at failed
      cases failed
      exact .refused decoded
    | accepted settings =>
      rw [decoded] at failed
      simp only [generateWith_eq_error_iff, Strategy.ofFetcher_eq_error_iff,
        Strategy.not_isWritable_iff] at failed
      rcases failed with ⟨_, ⟨mapper, isLazy, reason, custom, malformed, rfl⟩, rfl⟩ |
        ⟨⟨endpoint, params, hardcoded, long⟩, rfl⟩
      · exact .mapper decoded custom malformed
      · exact .longInteger decoded hardcoded long
  · intro unusable
    cases unusable with
    | refused refused => rw [refused]
    | mapper accepted custom malformed =>
      rw [accepted]
      refine generateWith_eq_error_iff.mpr (.inl ⟨_, ?_, rfl⟩)
      exact Strategy.ofFetcher_eq_error_iff.mpr ⟨_, _, _, custom, malformed, rfl⟩
    | longInteger accepted hardcoded long =>
      rw [accepted]
      refine generateWith_eq_error_iff.mpr (.inr ⟨?_, rfl⟩)
      exact Strategy.not_isWritable_iff.mpr ⟨_, _, hardcoded, long⟩

/-- Options whose integers are not too long make nothing that cannot be written. -/
lemma generate_ne_unwritten {options : Json} (fits : options.Fits (some longestInteger))
    (documents : List Document) (e : Json.WriteFault) :
    generate options documents ≠ .error (.unwritten e) := by
  intro failed
  cases generate_eq_error_iff.mp failed with
  | longInteger accepted hardcoded long =>
    obtain ⟨s, made, long⟩ := Strategy.not_isWritable_iff.mpr ⟨_, _, hardcoded, long⟩
    exact long (Strategy.isWritable_of_fits fits accepted made)

end OperationHooks
