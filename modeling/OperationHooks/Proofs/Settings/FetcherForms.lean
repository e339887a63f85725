import OperationHooks.Proofs.Settings.Options

/-!
# Forms of the fetcher option

Which values stand for a fetcher, and for which one: nothing, a text, a mapping that names its kind,
or one that shows it by its keys. The forms are given as a grammar, which says nothing of the order
in which a decoder tries them. Decoding accepts what the grammar has, and nothing else.
-/

namespace OperationHooks

namespace Decode

/-! ### Booleans -/

/-- The number that stands for a boolean. -/
def boolDigit (b : Bool) : Int := if b then 1 else 0

/-- The words that stand for a boolean, in small letters. -/
def boolWords (b : Bool) : List String := if b then trueWords else falseWords

/-- The boolean that a value stands for. -/
inductive StandsFor : Json → Bool → Prop
  | bool (b : Bool) : StandsFor (.bool b) b
  | int (b : Bool) : StandsFor (.int (boolDigit b)) b
  | float {x : Binary64} {b : Bool} (h : x.toInt? = some (boolDigit b)) : StandsFor (.float x) b
  | word {s : String} {b : Bool} (h : String.ofList (s.toList.map Char.toLower) ∈ boolWords b) :
    StandsFor (.str s) b

lemma ofInt_eq_accepted_iff {n : Int} {b : Bool} :
    boolean.ofInt n = .accepted b ↔ n = boolDigit b := by
  by_cases one : n = 1
  · cases b <;> simp [boolean.ofInt, boolDigit, one, pure]
  · by_cases zero : n = 0
    · cases b <;> simp [boolean.ofInt, boolDigit, zero, pure]
    · cases b <;> simp [boolean.ofInt, boolDigit, one, zero, Decoded.refuse]

/-- The numbers that stand for booleans are well within the range that is looked at. -/
lemma boolDigit_lt (b : Bool) : -negativeIntegers < boolDigit b ∧ boolDigit b < negativeIntegers := by
  cases b <;> decide

lemma not_mem_falseWords {word : String} (h : word ∈ trueWords) : word ∉ falseWords := by
  have apart : ∀ w ∈ trueWords, w ∉ falseWords := by decide
  exact apart word h

lemma boolean_eq_accepted_iff {v : Json} {b : Bool} : boolean v = .accepted b ↔ StandsFor v b := by
  constructor
  · intro h
    cases v with
    | bool b' =>
      cases h
      exact .bool b
    | int n =>
      rw [boolean] at h
      split_ifs at h
      · rw [ofInt_eq_accepted_iff.mp h]
        exact .int b
      · cases h
    | float x =>
      rw [boolean] at h
      split at h
      · next n whole =>
        split_ifs at h
        · exact .float (whole.trans (congrArg some (ofInt_eq_accepted_iff.mp h)))
        · cases h
      · cases h
    | str s =>
      simp only [boolean, List.contains_iff_mem] at h
      split_ifs at h with isTrue isFalse
      · cases h
        exact .word isTrue
      · cases h
        exact .word isFalse
      · cases h
    | _ => cases h
  · intro h
    cases h with
    | bool b => rfl
    | int b =>
      obtain ⟨above, below⟩ := boolDigit_lt b
      rw [boolean, if_pos ⟨Int.le_of_lt above, below⟩]
      exact ofInt_eq_accepted_iff.mpr rfl
    | float whole =>
      rw [boolean, whole]
      dsimp only
      rw [if_pos (boolDigit_lt b)]
      exact ofInt_eq_accepted_iff.mpr rfl
    | word spelled =>
      simp only [boolean, List.contains_iff_mem]
      cases b with
      | true =>
        have isTrue : _ ∈ trueWords := spelled
        rw [if_pos isTrue]
        rfl
      | false =>
        have isFalse : _ ∈ falseWords := spelled
        rw [if_neg fun isTrue => not_mem_falseWords isTrue isFalse, if_pos isFalse]
        rfl

/-! ### Mappings of a kind -/

/-- A member that may be left out, and else is written in one of two spellings. -/
inductive OptionalMember {α : Type} (default : α) (Means : Json → α → Prop) (camel snake : String)
    (ms : List (String × Json)) : α → Prop
  | left (h : lookupMember camel ms = none) (h' : lookupMember snake ms = none) :
    OptionalMember default Means camel snake ms default
  | camel {v : Json} {a : α} (h : lookupMember camel ms = some v)
      (h' : lookupMember snake ms = none) (means : Means v a) :
    OptionalMember default Means camel snake ms a
  | snake {v : Json} {a : α} (h : lookupMember camel ms = none)
      (h' : lookupMember snake ms = some v) (means : Means v a) :
    OptionalMember default Means camel snake ms a

/-- No member has a key but these. -/
def OnlyKeys (keys : List String) (ms : List (String × Json)) : Prop :=
  ∀ key ∉ keys, lookupMember key ms = none

/-- The fetcher of a kind that members stand for. -/
inductive KindForm (ms : List (String × Json)) : FetcherKind → Fetcher → Prop
  | browser (only : OnlyKeys ["kind"] ms) : KindForm ms .browser .browser
  | client (only : OnlyKeys ["kind"] ms) : KindForm ms .client .client
  | hardcoded {endpoint : String} {params : List (String × Json)}
      (given : lookupMember "endpoint" ms = some (.str endpoint)) (nonempty : endpoint ≠ "")
      (more : OptionalMember [] (fun v ps => v = .obj ps) "fetchParams" "fetch_params" ms params)
      (only : OnlyKeys ["kind", "endpoint", "fetchParams", "fetch_params"] ms) :
    KindForm ms .hardcoded (.hardcoded endpoint params)
  | custom {function : String} {isLazy : Bool}
      (given : lookupMember "func" ms = some (.str function)) (nonempty : function ≠ "")
      (more : OptionalMember false StandsFor "lazyVariables" "lazy_variables" ms isLazy)
      (only : OnlyKeys ["kind", "func", "lazyVariables", "lazy_variables"] ms) :
    KindForm ms .custom (.custom function isLazy)

/-! ### All forms -/

/-- The fetcher that a value stands for. -/
inductive FetcherForm : Json → Fetcher → Prop
  | null : FetcherForm .null .browser
  | browser : FetcherForm (.str "fetch") .browser
  | client : FetcherForm (.str "graphql-request") .client
  | function {s : String} (nonempty : s ≠ "") (other : s ≠ "fetch") (other' : s ≠ "graphql-request") :
    FetcherForm (.str s) (.custom s false)
  | endpoint {ms : List (String × Json)} {f : Fetcher} (unkinded : lookupMember "kind" ms = none)
      (form : KindForm ms .hardcoded f) : FetcherForm (.obj ms) f
  | func {ms : List (String × Json)} {f : Fetcher} (unkinded : lookupMember "kind" ms = none)
      (unplaced : lookupMember "endpoint" ms = none) (form : KindForm ms .custom f) :
    FetcherForm (.obj ms) f
  | kinded {ms : List (String × Json)} {kind : FetcherKind} {f : Fetcher}
      (named : lookupMember "kind" ms = some (.str kind.word)) (form : KindForm ms kind f) :
    FetcherForm (.obj ms) f

/-! ### Members, decoded -/

section

variable {α : Type} {a default : α} {decode : Json → Decoded α} {key camel snake : String}
  {ms : List (String × Json)}

lemma under_eq_accepted_iff {x : Decoded α} {step : OptionStep} :
    x.under step = .accepted a ↔ x = .accepted a := by
  cases x <;> simp [Decoded.under]

lemma find?_single : find? [key] ms = (lookupMember key ms).map (key, ·) := by
  cases h : lookupMember key ms <;> simp [find?, h]

lemma find?_pair :
    find? [camel, snake] ms =
      ((lookupMember camel ms).map (camel, ·)).or ((lookupMember snake ms).map (snake, ·)) := by
  cases h : lookupMember camel ms <;> cases h' : lookupMember snake ms <;> simp [find?, h, h']

lemma required_eq_accepted_iff :
    required decode [key] ms = .accepted a ↔
      ∃ v, lookupMember key ms = some v ∧ decode v = .accepted a := by
  rw [required, find?_single]
  cases lookupMember key ms <;> simp [under_eq_accepted_iff]

lemma OptionalMember.once {Means : Json → α → Prop}
    (h : OptionalMember default Means camel snake ms a) :
    lookupMember camel ms = none ∨ lookupMember snake ms = none := by
  cases h with
  | left h _ => exact .inl h
  | camel _ h' _ => exact .inr h'
  | snake h _ _ => exact .inl h

/-- An option with two spellings, of which one is missing. -/
lemma optional_eq_accepted_iff {Means : Json → α → Prop}
    (means : ∀ v a, decode v = .accepted a ↔ Means v a)
    (once : lookupMember camel ms = none ∨ lookupMember snake ms = none) :
    optional default decode [camel, snake] ms = .accepted a ↔
      OptionalMember default Means camel snake ms a := by
  rw [optional, find?_pair]
  constructor
  · intro h
    cases hc : lookupMember camel ms with
    | some v =>
      have missing := once.resolve_left (by simp [hc])
      simp only [hc, Option.map_some, Option.some_or, under_eq_accepted_iff, means] at h
      exact .camel hc missing h
    | none =>
      cases hs : lookupMember snake ms with
      | some v =>
        simp only [hc, hs, Option.map_some, Option.map_none, Option.none_or, under_eq_accepted_iff,
          means] at h
        exact .snake hc hs h
      | none =>
        simp only [hc, hs, Option.map_none, Option.none_or] at h
        cases h
        exact .left hc hs
  · intro h
    cases h with
    | left h h' =>
      rw [h, h']
      rfl
    | camel h h' means' => simpa [h, under_eq_accepted_iff, means] using means'
    | snake h h' means' => simpa [h, h', under_eq_accepted_iff, means] using means'

lemma kindWord_eq_accepted_iff {kind : FetcherKind} :
    optional () (kindWord kind) kindKey ms = .accepted () ↔
      ∀ v, lookupMember "kind" ms = some v → v = .str kind.word := by
  rw [optional, kindKey, find?_single]
  cases lookupMember "kind" ms with
  | none => simp [pure]
  | some v =>
    cases v with
    | str s => by_cases h : s = kind.word <;> simp [under_eq_accepted_iff, kindWord, h, pure, Decoded.refuse]
    | _ => simp [under_eq_accepted_iff, kindWord, Decoded.refuse]

lemma mem_keys_iff : key ∈ ms.map (·.1) ↔ lookupMember key ms ≠ none := by
  induction ms with
  | nil => simp [lookupMember]
  | cons m ms ih =>
    by_cases h : m.1 = key
    · simp [lookupMember, h]
    · rw [lookupMember, if_neg h, List.map_cons, List.mem_cons, or_iff_right (Ne.symm h), ih]

/-- Every key that is there is the one under which some option is found. -/
lemma noExtras_eq_accepted_iff_find? {options : List Spellings} :
    noExtras options ms = .accepted () ↔
      ∀ key, lookupMember key ms ≠ none → ∃ s ∈ options, ∃ v, find? s ms = some (key, v) := by
  have used (k : String) : k ∈ options.filterMap (fun s => (find? s ms).map (·.1)) ↔
      ∃ s ∈ options, ∃ v, find? s ms = some (k, v) := by
    simp [List.mem_filterMap]
  simp only [← used, ← mem_keys_iff]
  rw [noExtras]
  generalize options.filterMap (fun s => (find? s ms).map (·.1)) = keys
  split
  · next none =>
    rw [List.filter_eq_nil_iff] at none
    simpa [pure] using none
  · next extras some =>
    obtain ⟨k, hk⟩ := List.exists_mem_of_ne_nil _ some
    obtain ⟨given, unused⟩ := List.mem_filter.mp hk
    constructor
    · intro h
      cases h
    · intro h
      simp [h k given] at unused

lemma exists_find?_single {k : String} :
    (∃ v, find? [key] ms = some (k, v)) ↔ k = key ∧ lookupMember key ms ≠ none := by
  rw [find?_single]
  cases lookupMember key ms <;> simp [eq_comm]

lemma exists_find?_pair {k : String} :
    (∃ v, find? [camel, snake] ms = some (k, v)) ↔
      k = camel ∧ lookupMember camel ms ≠ none ∨
        k = snake ∧ lookupMember camel ms = none ∧ lookupMember snake ms ≠ none := by
  rw [find?_pair]
  cases lookupMember camel ms <;> cases lookupMember snake ms <;> simp [eq_comm]

/-- With the kind for the only option, no other key is there. -/
lemma noExtras_kind_eq_accepted_iff :
    noExtras [kindKey] ms = .accepted () ↔ OnlyKeys ["kind"] ms := by
  rw [noExtras_eq_accepted_iff_find?]
  apply forall_congr'
  intro k
  simp only [kindKey, List.mem_singleton, exists_eq_left, exists_find?_single]
  constructor
  · intro used other
    by_contra given
    exact other (used given).1
  · intro only given
    have kind : k = "kind" := by
      by_contra other
      exact given (only other)
    exact ⟨kind, kind ▸ given⟩

/-- With three options, the last of which has two spellings, no other key is there, and not both of
the spellings. -/
lemma noExtras_eq_accepted_iff (apart : snake ≠ "kind") (apart' : snake ≠ key)
    (apart'' : snake ≠ camel) :
    noExtras [kindKey, [key], [camel, snake]] ms = .accepted () ↔
      (lookupMember camel ms = none ∨ lookupMember snake ms = none) ∧
        OnlyKeys ["kind", key, camel, snake] ms := by
  rw [noExtras_eq_accepted_iff_find?]
  simp only [kindKey, OnlyKeys, List.mem_cons, List.not_mem_nil, or_false, exists_eq_or_imp,
    exists_eq_left, exists_find?_single, exists_find?_pair]
  constructor
  · intro used
    refine ⟨?_, ?_⟩
    · by_contra! both
      rcases used snake both.2 with ⟨kind, -⟩ | ⟨key, -⟩ | ⟨camel, -⟩ | ⟨-, missing, -⟩
      · exact apart kind
      · exact apart' key
      · exact apart'' camel
      · exact both.1 missing
    · intro k other
      by_contra given
      apply other
      rcases used k given with ⟨kind, -⟩ | ⟨key, -⟩ | ⟨camel, -⟩ | ⟨snake, -⟩
      · exact .inl kind
      · exact .inr (.inl key)
      · exact .inr (.inr (.inl camel))
      · exact .inr (.inr (.inr snake))
  · rintro ⟨once, only⟩ k given
    have among : k = "kind" ∨ k = key ∨ k = camel ∨ k = snake := by
      by_contra other
      exact given (only k other)
    rcases among with kind | key | camel | snake
    · exact .inl ⟨kind, kind ▸ given⟩
    · exact .inr (.inl ⟨key, key ▸ given⟩)
    · exact .inr (.inr (.inl ⟨camel, camel ▸ given⟩))
    · rw [snake] at given
      exact .inr (.inr (.inr ⟨snake, once.resolve_right given, given⟩))

end

/-! ### Fetchers, decoded -/

variable {ms : List (String × Json)} {kind : FetcherKind} {f : Fetcher}

lemma nonEmptyText_eq_accepted_iff {v : Json} {s : String} :
    nonEmptyText v = .accepted s ↔ v = .str s ∧ s ≠ "" := by
  cases v with
  | str t =>
    by_cases h : t = ""
    · subst h
      simp only [nonEmptyText, if_true, Decoded.refuse, Json.str.injEq, reduceCtorEq, false_iff,
        not_and, not_not]
      exact Eq.symm
    · simp only [nonEmptyText, if_neg h, pure, Decoded.accepted.injEq, Json.str.injEq]
      constructor
      · rintro rfl
        exact ⟨rfl, h⟩
      · exact And.left
  | _ => simp [nonEmptyText, Decoded.refuse]

lemma dictionary_eq_accepted_iff {v : Json} {ps : List (String × Json)} :
    dictionary v = .accepted ps ↔ v = .obj ps := by
  cases v <;> simp [dictionary, pure, Decoded.refuse]

/-- A text that has to be there and not to be empty. -/
lemma requiredText_eq_accepted_iff {key s : String} :
    required nonEmptyText [key] ms = .accepted s ↔ lookupMember key ms = some (.str s) ∧ s ≠ "" := by
  simp only [required_eq_accepted_iff, nonEmptyText_eq_accepted_iff]
  constructor
  · rintro ⟨v, given, rfl, nonempty⟩
    exact ⟨given, nonempty⟩
  · rintro ⟨given, nonempty⟩
    exact ⟨_, given, rfl, nonempty⟩

/-- Members of a fetcher without parameters. -/
lemma plainMembers_eq_accepted_iff {result : Fetcher} :
    (fun _ _ => result) <$> optional () (kindWord kind) kindKey ms <*> noExtras [kindKey] ms =
        .accepted f ↔
      (∀ v, lookupMember "kind" ms = some v → v = .str kind.word) ∧ OnlyKeys ["kind"] ms ∧
        f = result := by
  rw [← kindWord_eq_accepted_iff, ← noExtras_kind_eq_accepted_iff]
  simp only [Decoded.seq_eq_accepted_iff, Decoded.map_eq_accepted_iff]
  constructor
  · rintro ⟨_, ⟨⟨⟩, named, rfl⟩, ⟨⟩, only, rfl⟩
    exact ⟨named, only, rfl⟩
  · rintro ⟨named, only, rfl⟩
    exact ⟨_, ⟨(), named, rfl⟩, (), only, rfl⟩

/-- Members of a fetcher with a text that has to be there and a parameter that may be left out. -/
lemma parameterMembers_eq_accepted_iff {α : Type} {key camel snake : String} {default : α}
    {decode : Json → Decoded α} {Means : Json → α → Prop} {result : String → α → Fetcher}
    (apart : snake ≠ "kind") (apart' : snake ≠ key) (apart'' : snake ≠ camel)
    (means : ∀ v a, decode v = .accepted a ↔ Means v a) :
    (fun _ s a _ => result s a) <$> optional () (kindWord kind) kindKey ms
          <*> required nonEmptyText [key] ms <*> optional default decode [camel, snake] ms
          <*> noExtras [kindKey, [key], [camel, snake]] ms = .accepted f ↔
      (∀ v, lookupMember "kind" ms = some v → v = .str kind.word) ∧
        ∃ s a, lookupMember key ms = some (.str s) ∧ s ≠ "" ∧
          OptionalMember default Means camel snake ms a ∧
          OnlyKeys ["kind", key, camel, snake] ms ∧ f = result s a := by
  have extras := @noExtras_eq_accepted_iff key camel snake ms apart apart' apart''
  simp only [Decoded.seq_eq_accepted_iff, Decoded.map_eq_accepted_iff]
  constructor
  · rintro ⟨_, ⟨_, ⟨_, ⟨⟨⟩, named, rfl⟩, s, text, rfl⟩, a, more, rfl⟩, ⟨⟩, only, rfl⟩
    obtain ⟨given, nonempty⟩ := requiredText_eq_accepted_iff.mp text
    obtain ⟨once, only⟩ := extras.mp only
    exact ⟨kindWord_eq_accepted_iff.mp named, s, a, given, nonempty,
      (optional_eq_accepted_iff means once).mp more, only, rfl⟩
  · rintro ⟨named, s, a, given, nonempty, more, only, rfl⟩
    have text := requiredText_eq_accepted_iff.mpr ⟨given, nonempty⟩
    have more' := (optional_eq_accepted_iff means more.once).mpr more
    exact ⟨_, ⟨_, ⟨_, ⟨(), kindWord_eq_accepted_iff.mpr named, rfl⟩, s, text, rfl⟩, a, more', rfl⟩,
      (), extras.mpr ⟨more.once, only⟩, rfl⟩

/-- Members are decoded as a kind exactly if they have its form and name no other kind. -/
lemma fetcherMembers_eq_accepted_iff :
    fetcherMembers kind ms = .accepted f ↔
      (∀ v, lookupMember "kind" ms = some v → v = .str kind.word) ∧ KindForm ms kind f := by
  cases kind with
  | browser =>
    refine plainMembers_eq_accepted_iff.trans (and_congr_right fun _ => ?_)
    constructor
    · rintro ⟨only, rfl⟩
      exact .browser only
    · intro form
      cases form with
      | browser only => exact ⟨only, rfl⟩
  | client =>
    refine plainMembers_eq_accepted_iff.trans (and_congr_right fun _ => ?_)
    constructor
    · rintro ⟨only, rfl⟩
      exact .client only
    · intro form
      cases form with
      | client only => exact ⟨only, rfl⟩
  | hardcoded =>
    refine (parameterMembers_eq_accepted_iff (by decide) (by decide) (by decide)
      (fun _ _ => dictionary_eq_accepted_iff)).trans (and_congr_right fun _ => ?_)
    constructor
    · rintro ⟨_, _, given, nonempty, more, only, rfl⟩
      exact .hardcoded given nonempty more only
    · intro form
      cases form with
      | hardcoded given nonempty more only => exact ⟨_, _, given, nonempty, more, only, rfl⟩
  | custom =>
    refine (parameterMembers_eq_accepted_iff (by decide) (by decide) (by decide)
      (fun _ _ => boolean_eq_accepted_iff)).trans (and_congr_right fun _ => ?_)
    constructor
    · rintro ⟨_, _, given, nonempty, more, only, rfl⟩
      exact .custom given nonempty more only
    · intro form
      cases form with
      | custom given nonempty more only => exact ⟨_, _, given, nonempty, more, only, rfl⟩

lemma find?_word {s : String} :
    FetcherKind.all.find? (fun k => k.word == s) = some kind ↔ s = kind.word := by
  constructor
  · intro h
    have word := List.find?_some h
    exact (beq_iff_eq.mp word).symm
  · rintro rfl
    cases kind <;> decide

/-- A mapping with a kind is decoded as one of that kind. -/
lemma taggedFetcher_eq_accepted_iff :
    taggedFetcher ms = .accepted f ↔
      ∃ kind : FetcherKind, lookupMember "kind" ms = some (.str kind.word) ∧ KindForm ms kind f := by
  cases named : lookupMember "kind" ms with
  | none =>
    rw [taggedFetcher, named]
    simp [Decoded.refuse]
  | some tag =>
    rw [taggedFetcher, named]
    dsimp only
    constructor
    · intro h
      split at h
      · next kind known =>
        rw [under_eq_accepted_iff, fetcherMembers_eq_accepted_iff] at h
        exact ⟨kind, congrArg some (h.1 tag named), h.2⟩
      · cases h
    · rintro ⟨kind, tagged, form⟩
      cases tagged
      dsimp only
      rw [find?_word.mpr rfl]
      dsimp only
      rw [under_eq_accepted_iff, fetcherMembers_eq_accepted_iff]
      refine ⟨?_, form⟩
      intro v given
      exact Option.some.inj (given.symm.trans named)

/-! ### Forms look at members by key -/

lemma onlyKeys_iff {keys : List String} : OnlyKeys keys ms ↔ ∀ m ∈ ms, m.1 ∈ keys := by
  constructor
  · intro only m hm
    by_contra other
    exact mem_keys_iff.mp (List.mem_map_of_mem hm) (only m.1 other)
  · intro among key other
    by_contra given
    obtain ⟨m, hm, rfl⟩ := List.mem_map.mp (mem_keys_iff.mpr given)
    exact other (among m hm)

lemma OptionalMember.congr {α : Type} {default a : α} {Means : Json → α → Prop}
    {camel snake : String} {ms' : List (String × Json)}
    (same : lookupMember camel ms' = lookupMember camel ms)
    (same' : lookupMember snake ms' = lookupMember snake ms)
    (h : OptionalMember default Means camel snake ms a) :
    OptionalMember default Means camel snake ms' a := by
  cases h with
  | left h h' => exact .left (same.trans h) (same'.trans h')
  | camel h h' means => exact .camel (same.trans h) (same'.trans h') means
  | snake h h' means => exact .snake (same.trans h) (same'.trans h') means

lemma OnlyKeys.congr {keys : List String} {ms' : List (String × Json)} (kind : "kind" ∈ keys)
    (same : ∀ key ≠ "kind", lookupMember key ms' = lookupMember key ms) (h : OnlyKeys keys ms) :
    OnlyKeys keys ms' := by
  intro key other
  rw [same key (ne_of_mem_of_not_mem kind other).symm]
  exact h key other

/-- The form of a kind does not depend on where its members stand, nor on the kind among them. -/
lemma KindForm.congr {ms' : List (String × Json)}
    (same : ∀ key ≠ "kind", lookupMember key ms' = lookupMember key ms) (h : KindForm ms kind f) :
    KindForm ms' kind f := by
  have among {key : String} {keys : List String} : key ∈ key :: keys := List.mem_cons_self
  cases h with
  | browser only => exact .browser (only.congr among same)
  | client only => exact .client (only.congr among same)
  | hardcoded given nonempty more only =>
    exact .hardcoded ((same _ (by decide)).trans given) nonempty
      (more.congr (same _ (by decide)) (same _ (by decide))) (only.congr among same)
  | custom given nonempty more only =>
    exact .custom ((same _ (by decide)).trans given) nonempty
      (more.congr (same _ (by decide)) (same _ (by decide))) (only.congr among same)

/-- The kind may be written in front of members that have none. -/
lemma taggedFetcher_cons_eq_accepted_iff :
    taggedFetcher (("kind", .str kind.word) :: ms) = .accepted f ↔ KindForm ms kind f := by
  have same : ∀ key ≠ "kind",
      lookupMember key (("kind", .str kind.word) :: ms) = lookupMember key ms := by
    intro key other
    exact if_neg other.symm
  rw [taggedFetcher_eq_accepted_iff]
  constructor
  · rintro ⟨kind', named, form⟩
    have word : kind.word = kind'.word := Json.str.inj (Option.some.inj named)
    have kinds := (find?_word.mpr rfl).symm.trans (find?_word.mpr word)
    cases Option.some.inj kinds
    exact form.congr fun key other => (same key other).symm
  · intro form
    exact ⟨kind, rfl, form.congr same⟩

/-! ### All forms, decoded -/

lemma fetcher_text_eq_accepted_iff {s : String} :
    fetcher (.str s) = .accepted f ↔ FetcherForm (.str s) f := by
  constructor
  · intro h
    rw [fetcher] at h
    split_ifs at h with browser client
    · cases h
      exact browser ▸ .browser
    · cases h
      exact client ▸ .client
    · cases (@taggedFetcher_cons_eq_accepted_iff _ .custom _).mp h with
      | custom given nonempty more only =>
        cases given
        cases more with
        | left h h' => exact .function nonempty browser client
        | camel h => cases h
        | snake h h' => cases h'
  · intro h
    cases h with
    | browser => rfl
    | client => rfl
    | function nonempty other other' =>
      have notBrowser : s ≠ FetcherKind.browser.word := other
      have notClient : s ≠ FetcherKind.client.word := other'
      rw [fetcher, if_neg notBrowser, if_neg notClient]
      refine (@taggedFetcher_cons_eq_accepted_iff _ .custom _).mpr
        (.custom rfl nonempty (.left rfl rfl) (onlyKeys_iff.mpr ?_))
      simp

lemma KindForm.placed (h : KindForm ms .hardcoded f) :
    (lookupMember "endpoint" ms).any (!·.isFalsy) := by
  cases h with
  | hardcoded given nonempty more only =>
    rw [given]
    simpa [Json.isFalsy] using nonempty

lemma KindForm.unplaced (h : KindForm ms .custom f) : lookupMember "endpoint" ms = none := by
  cases h with
  | custom given nonempty more only => exact only "endpoint" (by decide)

lemma KindForm.function (h : KindForm ms .custom f) : (lookupMember "func" ms).isSome := by
  cases h with
  | custom given nonempty more only => simp [given]

lemma fetcher_members_eq_accepted_iff :
    fetcher (.obj ms) = .accepted f ↔ FetcherForm (.obj ms) f := by
  rw [fetcher]
  cases named : lookupMember "kind" ms with
  | some tag =>
    rw [if_pos (by rfl), taggedFetcher_eq_accepted_iff]
    constructor
    · rintro ⟨kind, named, form⟩
      exact .kinded named form
    · intro h
      cases h with
      | endpoint unkinded form => cases named.symm.trans unkinded
      | func unkinded unplaced form => cases named.symm.trans unkinded
      | kinded named form => exact ⟨_, named, form⟩
  | none =>
    rw [if_neg (by simp)]
    have forms : FetcherForm (.obj ms) f ↔ KindForm ms .hardcoded f ∨ KindForm ms .custom f := by
      constructor
      · intro h
        cases h with
        | endpoint unkinded form => exact .inl form
        | func unkinded unplaced form => exact .inr form
        | kinded named' form => cases named.symm.trans named'
      · rintro (form | form)
        · exact .endpoint named form
        · exact .func named form.unplaced form
    rw [forms]
    split_ifs with placed function
    · rw [taggedFetcher_cons_eq_accepted_iff, or_iff_left]
      intro form
      simp [form.unplaced] at placed
    · rw [taggedFetcher_cons_eq_accepted_iff, or_iff_right]
      intro form
      exact placed form.placed
    · constructor
      · intro h
        cases h
      · rintro (form | form)
        · exact absurd form.placed placed
        · exact absurd form.function function

/-- A fetcher is decoded from a value exactly if the value has a form that stands for it. -/
lemma fetcher_eq_accepted_iff {v : Json} : fetcher v = .accepted f ↔ FetcherForm v f := by
  cases v with
  | null =>
    constructor
    · intro h
      cases h
      exact .null
    · intro h
      cases h
      rfl
  | str s => exact fetcher_text_eq_accepted_iff
  | obj ms => exact fetcher_members_eq_accepted_iff
  | _ =>
    constructor
    · intro h
      cases h
    · intro h
      cases h

/-- Options with nothing but a fetcher. -/
def fetcherAlone (v : Json) : Json := .obj [("fetcher", v)]

lemma settings_fetcherAlone_eq_accepted_iff {v : Json} {settings : Settings} :
    Decode.settings (fetcherAlone v) = .accepted settings ↔
      ∃ f, fetcher v = .accepted f ∧ settings = { Settings.default with fetcher := f } := by
  have accepted : Decode.settings (fetcherAlone v) = settingsMembers [("fetcher", v)] := rfl
  have fetched {f : Fetcher} :
      optional .browser fetcher ["fetcher"] [("fetcher", v)] = .accepted f ↔
        fetcher v = .accepted f := under_eq_accepted_iff
  rw [accepted, settingsMembers_eq_accepted_iff, fetched]
  constructor
  · rintro ⟨f, e, o, i, x, d, s, m⟩
    refine ⟨settings.fetcher, f, ?_⟩
    rw [Settings.mk.injEq]
    exact ⟨rfl, (Decoded.accepted.inj e).symm, (Decoded.accepted.inj o).symm,
      (Decoded.accepted.inj i).symm, (Decoded.accepted.inj x).symm, (Decoded.accepted.inj d).symm,
      (Decoded.accepted.inj s).symm, (Decoded.accepted.inj m).symm⟩
  · rintro ⟨f, h, rfl⟩
    exact ⟨h, rfl, rfl, rfl, rfl, rfl, rfl, rfl⟩

/-- The fetcher option is accepted exactly in the forms of the grammar, and stands for the fetcher
that the grammar gives it; everything else is refused. -/
theorem fetcher_accepted_iff (v : Json) :
    (∀ settings, Decode.settings (fetcherAlone v) = .accepted settings ↔
      ∃ f, FetcherForm v f ∧ settings = { Settings.default with fetcher := f }) ∧
    ((∃ refusals, Decode.settings (fetcherAlone v) = .refused refusals) ↔
      ¬∃ f, FetcherForm v f) := by
  have accepted (settings : Settings) :
      Decode.settings (fetcherAlone v) = .accepted settings ↔
        ∃ f, FetcherForm v f ∧ settings = { Settings.default with fetcher := f } := by
    simp only [settings_fetcherAlone_eq_accepted_iff, fetcher_eq_accepted_iff]
  refine ⟨accepted, ?_⟩
  constructor
  · rintro ⟨refusals, refused⟩ ⟨f, form⟩
    cases refused.symm.trans ((accepted _).mpr ⟨f, form, rfl⟩)
  · intro none
    cases decoded : Decode.settings (fetcherAlone v) with
    | refused refusals => exact ⟨refusals, rfl⟩
    | accepted settings =>
      obtain ⟨f, form, -⟩ := (accepted settings).mp decoded
      exact absurd ⟨f, form⟩ none

end Decode

end OperationHooks
