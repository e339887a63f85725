import Mathlib.Tactic.Common
import OperationHooks.Hooks.Strategy
import OperationHooks.Proofs.Json.Limits
import OperationHooks.Proofs.Settings.FetcherForms

/-!
# Writing helpers

A helper is written exactly if no request option in it holds an integer that is too long, and then
it is the one that the strategy needs. Options that were read as JSON are never in the way: reading
has the same limit.
-/

namespace OperationHooks

namespace Strategy

/-- The request options in the helper can be written. -/
def IsWritable (s : Strategy) : Prop := ∀ o ∈ s.fixedOptions, o.2.Fits (some longestInteger)

variable {option : String × Json} {options : List (String × Json)} {s : Strategy}

lemma writeOption_of_fits (fits : option.2.Fits (some longestInteger)) :
    writeOption option = .ok (optionLine option) := by
  rw [writeOption, Json.write, if_pos fits]
  rfl

lemma writeOption_of_not_fits (long : ¬option.2.Fits (some longestInteger)) :
    writeOption option = .error .longInteger := by
  rw [writeOption, Json.write, if_neg long]
  rfl

lemma mapM_writeOption_of_fit (fit : ∀ o ∈ options, o.2.Fits (some longestInteger)) :
    options.mapM writeOption = .ok (options.map optionLine) := by
  induction options with
  | nil => rfl
  | cons option options ih =>
    obtain ⟨fits, rest⟩ := List.forall_mem_cons.mp fit
    rw [List.mapM_cons, writeOption_of_fits fits, ih rest]
    rfl

/-- The first option that cannot be written is in the way of all. -/
lemma mapM_writeOption_of_not_fit (long : ¬∀ o ∈ options, o.2.Fits (some longestInteger)) :
    options.mapM writeOption = .error .longInteger := by
  induction options with
  | nil => exact absurd (fun o ho => absurd ho List.not_mem_nil) long
  | cons option options ih =>
    rw [List.mapM_cons]
    by_cases fits : option.2.Fits (some longestInteger)
    · rw [writeOption_of_fits fits, ih fun rest => long (List.forall_mem_cons.mpr ⟨fits, rest⟩)]
      rfl
    · rw [writeOption_of_not_fits fits]
      rfl

lemma writeHelper_of_isWritable (h : s.IsWritable) : s.writeHelper = .ok s.helper? := by
  rw [writeHelper, mapM_writeOption_of_fit h]
  rfl

lemma writeHelper_of_not_isWritable (h : ¬s.IsWritable) :
    s.writeHelper = .error .longInteger := by
  rw [writeHelper, mapM_writeOption_of_not_fit h]
  rfl

lemma isWritable_of_no_options (h : s.fixedOptions = []) : s.IsWritable := by
  intro o ho
  rw [h] at ho
  cases ho

/-- Only a hardcoded fetcher puts request options into the helper. -/
lemma hardcoded_or_no_options {f : Fetcher} (made : ofFetcher f = .ok s) :
    (∃ endpoint params, f = .hardcoded endpoint params ∧ s = .hardcoded endpoint params) ∨
      s.fixedOptions = [] := by
  cases f with
  | hardcoded endpoint params =>
    cases made
    exact .inl ⟨endpoint, params, rfl, rfl⟩
  | browser | client =>
    cases made
    exact .inr rfl
  | custom mapper isLazy =>
    rw [ofFetcher] at made
    split at made
    · cases made
      exact .inr rfl
    · cases made

lemma isWritable_of_hardcoded {endpoint : String} {params : List (String × Json)}
    (fit : Json.MembersFit (some longestInteger) params) :
    (hardcoded endpoint params).IsWritable := by
  intro o ho
  have given : o ∈ ("method", .str "POST") :: params := subset_collectMembers _ ho
  rcases List.mem_cons.mp given with rfl | given
  · trivial
  · exact Json.membersFit_iff.mp fit o given

end Strategy

/-! ### Options that fit -/

namespace Decode

variable {longest? : Option Nat} {ms params : List (String × Json)} {endpoint : String}

lemma fits_of_lookupMember {key : String} {v : Json} (fit : Json.MembersFit longest? ms)
    (h : lookupMember key ms = some v) : v.Fits longest? :=
  Json.membersFit_iff.mp fit _ (mem_of_lookupMember h)

lemma KindForm.fit {kind : FetcherKind} (h : KindForm ms kind (.hardcoded endpoint params))
    (fit : Json.MembersFit longest? ms) : Json.MembersFit longest? params := by
  cases h with
  | hardcoded given nonempty more only =>
    cases more with
    | left => trivial
    | camel named absent means =>
      cases means
      exact fits_of_lookupMember fit named
    | snake absent named means =>
      cases means
      exact fits_of_lookupMember fit named

/-- The request options of a fetcher are part of the value that stands for it. -/
lemma FetcherForm.fit {v : Json} (h : FetcherForm v (.hardcoded endpoint params))
    (fits : v.Fits longest?) : Json.MembersFit longest? params := by
  cases h with
  | endpoint unkinded form => exact form.fit fits
  | func unkinded unplaced form => exact form.fit fits
  | kinded named form => exact form.fit fits

/-- The request options of accepted settings are part of the options that they stand for. -/
lemma params_fit {raw : Json} {settings : Settings}
    (accepted : Decode.settings raw = .accepted settings)
    (hardcoded : settings.fetcher = .hardcoded endpoint params) (fits : raw.Fits longest?) :
    Json.MembersFit longest? params := by
  have fetched := (settingsMembers_eq_accepted_iff.mp (settingsMembers_of_accepted accepted)).1
  have fit : Json.MembersFit longest? (members raw) := by
    cases raw with
    | obj ms => exact fits
    | _ => trivial
  rw [optional, find?_single] at fetched
  cases given : lookupMember "fetcher" (members raw) with
  | none =>
    rw [given] at fetched
    cases hardcoded.symm.trans (Decoded.accepted.inj fetched).symm
  | some v =>
    rw [given] at fetched
    have decoded := under_eq_accepted_iff.mp fetched
    rw [hardcoded, fetcher_eq_accepted_iff] at decoded
    exact decoded.fit (fits_of_lookupMember fit given)

end Decode

/-- What accepted settings make is written if the integers in the options are not too long. -/
lemma Strategy.isWritable_of_fits {options : Json} {settings : Settings} {s : Strategy}
    (fits : options.Fits (some longestInteger))
    (accepted : Decode.settings options = .accepted settings)
    (made : Strategy.ofFetcher settings.fetcher = .ok s) : s.IsWritable := by
  obtain ⟨endpoint, params, hardcoded, rfl⟩ | none := hardcoded_or_no_options made
  · exact isWritable_of_hardcoded (Decode.params_fit accepted hardcoded fits)
  · exact isWritable_of_no_options none

end OperationHooks
