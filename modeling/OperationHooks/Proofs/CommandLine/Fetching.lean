import OperationHooks.CommandLine.Fetching
import OperationHooks.Proofs.Settings.FetcherForms

/-!
# Fetchers from the command line

The options of the command line are refused where they exclude each other. Where they do not, what
is made of them is decoded to the fetcher that they name, with all that they say about it.
-/

namespace OperationHooks

namespace CommandLine

open Decode

variable {fetcher endpoint : String} {endpoint? : Option String} {params : List (String × Json)}
  {isLazy : Bool}

/-- The fetcher that options of the command line name. -/
def namedFetcher (fetcher : String) (endpoint? : Option String) (params : List (String × Json))
    (isLazy : Bool) : Fetcher :=
  match endpoint? with
  | none | some "" =>
    if fetcher = "fetch" then .browser
    else if fetcher = "graphql-request" then .client
    else .custom fetcher isLazy
  | some endpoint => .hardcoded endpoint params

lemma placed_or_nowhere (endpoint? : Option String) :
    (∃ endpoint, endpoint? = some endpoint ∧ endpoint ≠ "") ∨
      (endpoint? = none ∨ endpoint? = some "") := by
  rcases endpoint? with _ | endpoint
  · exact .inr (.inl rfl)
  · by_cases empty : endpoint = ""
    · exact .inr (.inr (congrArg some empty))
    · exact .inl ⟨endpoint, rfl, empty⟩

/-! ### With an endpoint -/

lemma namedFetcher_endpoint (placed : endpoint ≠ "") :
    namedFetcher fetcher (some endpoint) params isLazy = .hardcoded endpoint params := by
  rw [namedFetcher]
  rintro rfl
  exact placed rfl

lemma fetcherOption_endpoint (placed : endpoint ≠ "") :
    fetcherOption fetcher (some endpoint) params isLazy =
      if fetcher ≠ "fetch" then .error (.endpointWithFetcher fetcher)
      else if isLazy then .error .lazyWithEndpoint
      else .ok (.obj [("endpoint", .str endpoint), ("fetchParams", .obj params)]) := by
  rw [fetcherOption, Option.filter_some, if_pos (decide_eq_true placed)]
  rfl

lemma fetcherForm_endpoint (placed : endpoint ≠ "") :
    FetcherForm (.obj [("endpoint", .str endpoint), ("fetchParams", .obj params)])
      (.hardcoded endpoint params) := by
  refine .endpoint rfl (.hardcoded rfl placed (.camel rfl rfl rfl) (onlyKeys_iff.mpr ?_))
  simp

/-! ### Without an endpoint -/

lemma namedFetcher_nowhere (nowhere : endpoint? = none ∨ endpoint? = some "") :
    namedFetcher fetcher endpoint? params isLazy =
      if fetcher = "fetch" then .browser
      else if fetcher = "graphql-request" then .client
      else .custom fetcher isLazy := by
  rcases nowhere with rfl | rfl <;> rfl

lemma fetcherOption_nowhere (nowhere : endpoint? = none ∨ endpoint? = some "") :
    fetcherOption fetcher endpoint? params isLazy =
      if params ≠ [] then .error .paramsWithoutEndpoint
      else if isLazy then
        if fetcher = "fetch" ∨ fetcher = "graphql-request" then .error (.lazyWithFetcher fetcher)
        else .ok (.obj [("func", .str fetcher), ("lazyVariables", .bool true)])
      else .ok (.str fetcher) := by
  have builtin : builtinFetchers.contains fetcher = true ↔
      fetcher = "fetch" ∨ fetcher = "graphql-request" := by
    simp [builtinFetchers, FetcherKind.word]
  rw [← if_congr builtin rfl rfl]
  rcases nowhere with rfl | rfl <;> rfl

lemma fetcherForm_text (nonempty : fetcher ≠ "") :
    FetcherForm (.str fetcher)
      (if fetcher = "fetch" then .browser
        else if fetcher = "graphql-request" then .client
        else .custom fetcher false) := by
  split_ifs with browser client
  · exact browser ▸ .browser
  · exact client ▸ .client
  · exact .function nonempty browser client

lemma fetcherForm_lazy (nonempty : fetcher ≠ "") :
    FetcherForm (.obj [("func", .str fetcher), ("lazyVariables", .bool true)])
      (.custom fetcher true) := by
  refine .func rfl rfl (.custom rfl nonempty (.camel rfl rfl (.bool true)) (onlyKeys_iff.mpr ?_))
  simp

/-! ### Both -/

/-- What is made of options stands for the fetcher that they name. -/
lemma fetcherForm_fetcherOption (nonempty : fetcher ≠ "") {option : Json}
    (made : fetcherOption fetcher endpoint? params isLazy = .ok option) :
    FetcherForm option (namedFetcher fetcher endpoint? params isLazy) := by
  rcases placed_or_nowhere endpoint? with ⟨endpoint, rfl, placed⟩ | nowhere
  · rw [namedFetcher_endpoint placed]
    rw [fetcherOption_endpoint placed] at made
    split_ifs at made
    cases made
    exact fetcherForm_endpoint placed
  · rw [namedFetcher_nowhere nowhere]
    rw [fetcherOption_nowhere nowhere] at made
    split_ifs at made with given isLazy builtin
    · cases made
      obtain ⟨notBrowser, notClient⟩ := not_or.mp builtin
      rw [if_neg notBrowser, if_neg notClient, isLazy]
      exact fetcherForm_lazy nonempty
    · cases made
      rw [eq_false_of_ne_true isLazy]
      exact fetcherForm_text nonempty

/-- An empty text names no fetcher. -/
lemma fetcherOption_empty {option : Json}
    (made : fetcherOption "" endpoint? params isLazy = .ok option) (f : Fetcher) :
    Decode.fetcher option ≠ .accepted f := by
  rcases placed_or_nowhere endpoint? with ⟨endpoint, rfl, placed⟩ | nowhere
  · rw [fetcherOption_endpoint placed, if_pos (by decide)] at made
    cases made
  · rw [fetcherOption_nowhere nowhere] at made
    split_ifs at made
    · cases made
      intro accepted
      cases accepted
    · cases made
      intro accepted
      cases accepted

/-- What is made of options is decoded to nothing but the fetcher that they name. -/
lemma namedFetcher_of_accepted {option : Json} {f : Fetcher}
    (made : fetcherOption fetcher endpoint? params isLazy = .ok option)
    (accepted : Decode.fetcher option = .accepted f) :
    f = namedFetcher fetcher endpoint? params isLazy := by
  have nonempty : fetcher ≠ "" := by
    rintro rfl
    exact fetcherOption_empty made f accepted
  have named := fetcher_eq_accepted_iff.mpr (fetcherForm_fetcherOption nonempty made)
  exact Decoded.accepted.inj (accepted.symm.trans named)

/-- Options are refused where they exclude each other. -/
lemma fetcherOption_eq_error_iff :
    (∃ misuse, fetcherOption fetcher endpoint? params isLazy = .error misuse) ↔
      (∃ endpoint, endpoint? = some endpoint ∧ endpoint ≠ "" ∧
        (fetcher ≠ "fetch" ∨ isLazy = true)) ∨
      (endpoint? = none ∨ endpoint? = some "") ∧
        (params ≠ [] ∨ isLazy = true ∧ (fetcher = "fetch" ∨ fetcher = "graphql-request")) := by
  rcases placed_or_nowhere endpoint? with ⟨endpoint, rfl, placed⟩ | nowhere
  · rw [fetcherOption_endpoint placed]
    by_cases browser : fetcher = "fetch" <;> by_cases isLazy : isLazy = true <;>
      simp [browser, isLazy, placed]
  · have unplaced : ¬∃ endpoint, endpoint? = some endpoint ∧ endpoint ≠ "" ∧
        (fetcher ≠ "fetch" ∨ isLazy = true) := by
      rcases nowhere with rfl | rfl <;> simp
    rw [fetcherOption_nowhere nowhere, or_iff_right unplaced, and_iff_right nowhere]
    by_cases given : params = [] <;> by_cases isLazy : isLazy = true <;>
      by_cases builtin : fetcher = "fetch" ∨ fetcher = "graphql-request" <;>
      simp [given, isLazy, builtin]

/-- Options are refused exactly where they exclude each other: an endpoint goes with no fetcher but
the one that posts to it and is not lazy, and without an endpoint there are no request options and
the fetchers that need no function are not lazy. All others are decoded to the fetcher that they
name. -/
theorem fetcherOption_agrees (nonempty : fetcher ≠ "") (endpoint? : Option String)
    (params : List (String × Json)) (isLazy : Bool) :
    ((∃ misuse, fetcherOption fetcher endpoint? params isLazy = .error misuse) ↔
      (∃ endpoint, endpoint? = some endpoint ∧ endpoint ≠ "" ∧
        (fetcher ≠ "fetch" ∨ isLazy = true)) ∨
      (endpoint? = none ∨ endpoint? = some "") ∧
        (params ≠ [] ∨ isLazy = true ∧ (fetcher = "fetch" ∨ fetcher = "graphql-request"))) ∧
    ∀ option, fetcherOption fetcher endpoint? params isLazy = .ok option →
      Decode.settings (fetcherAlone option) = .accepted
        { Settings.default with fetcher := namedFetcher fetcher endpoint? params isLazy } := by
  refine ⟨fetcherOption_eq_error_iff, ?_⟩
  intro option made
  have form := fetcherForm_fetcherOption nonempty made
  exact settings_fetcherAlone_eq_accepted_iff.mpr ⟨_, fetcher_eq_accepted_iff.mpr form, rfl⟩

theorem fetcherOption_agrees_lazy :
    "./hooks#useData" ≠ "" ∧ ∃ option,
      fetcherOption "./hooks#useData" none [] true = .ok option ∧
        Decode.settings (fetcherAlone option) = .accepted
          { Settings.default with fetcher := .custom "./hooks#useData" true } := by
  have nonempty : "./hooks#useData" ≠ "" := by decide
  have made : fetcherOption "./hooks#useData" none [] true =
      .ok (.obj [("func", .str "./hooks#useData"), ("lazyVariables", .bool true)]) := rfl
  exact ⟨nonempty, _, made, (fetcherOption_agrees nonempty none [] true).2 _ made⟩

end CommandLine

end OperationHooks
