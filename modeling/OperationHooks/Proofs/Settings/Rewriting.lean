import Mathlib.Data.List.Forall2
import Mathlib.Data.List.Perm.Basic
import OperationHooks.Proofs.Json.Members
import OperationHooks.Proofs.Settings.FetcherForms

/-!
# Options written in another way

One and the same options can be written down in many ways: members in any order, options in either
of their spellings, and further keys at the top. As long as no option is given twice, they are all
decoded alike: what an option comes to hangs on the one member that gives it, whatever its key and
its place.
-/

namespace OperationHooks

/-! ### Decoded values -/

namespace Decoded

variable {α β : Type}

@[simp] lemma value?_map (f : α → β) (x : Decoded α) : (f <$> x).value? = x.value?.map f := by
  cases x <;> rfl

@[simp] lemma value?_seq (f : Decoded (α → β)) (x : Decoded α) :
    (f <*> x).value? = f.value?.bind fun g => x.value?.map g := by
  cases f <;> cases x <;> rfl

@[simp] lemma value?_under (step : OptionStep) (x : Decoded α) :
    (x.under step).value? = x.value? := by
  cases x <;> rfl

lemma eq_accepted_iff_value? {x : Decoded α} {a : α} : x = .accepted a ↔ x.value? = some a := by
  cases x <;> simp [value?]

/-- Where there is nothing to decode, it only counts whether it is accepted. -/
lemma value?_congr_unit {x y : Decoded Unit} (h : x = .accepted () ↔ y = .accepted ()) :
    x.value? = y.value? := by
  cases x with
  | accepted => rw [h.mp rfl]
  | refused rs =>
    cases y with
    | accepted => cases h.mpr rfl
    | refused rs' => rfl

end Decoded

namespace Decode

variable {ms ms' : List (String × Json)} {option : Spellings} {key key' : String}

/-! ### The members that give an option -/

/-- The members that give an option, under whatever spelling. -/
def membersOf (option : Spellings) (ms : List (String × Json)) : List (String × Json) :=
  ms.filter fun m => m.1 ∈ option

/-- No option is given more than once, neither under two spellings nor under one. -/
def GivenOnce (options : List Spellings) (ms : List (String × Json)) : Prop :=
  ∀ option ∈ options, (membersOf option ms).length ≤ 1

instance (options : List Spellings) (ms : List (String × Json)) :
    Decidable (GivenOnce options ms) :=
  inferInstanceAs (Decidable (∀ option ∈ options, _))

lemma mem_membersOf {m : String × Json} : m ∈ membersOf option ms ↔ m ∈ ms ∧ m.1 ∈ option := by
  simp [membersOf]

lemma find?_eq_none_iff : find? option ms = none ↔ membersOf option ms = [] := by
  rw [find?, List.findSome?_eq_none_iff, membersOf, List.filter_eq_nil_iff]
  constructor
  · intro missing m hm given
    have missed := missing m.1 (by simpa using given)
    exact mem_keys_iff.mp (List.mem_map_of_mem hm) (by simpa using missed)
  · intro missing k hk
    rw [Option.map_eq_none_iff]
    apply lookupMember_of_not_mem
    intro given
    obtain ⟨m, hm, rfl⟩ := List.mem_map.mp given
    exact missing m hm (by simpa using hk)

lemma mem_membersOf_of_find? {m : String × Json} (h : find? option ms = some m) :
    m ∈ membersOf option ms := by
  obtain ⟨k, hk, found⟩ := List.exists_of_findSome?_eq_some h
  obtain ⟨v, given, rfl⟩ := Option.map_eq_some_iff.mp found
  exact mem_membersOf.mpr ⟨mem_of_lookupMember given, hk⟩

/-- The one member that gives an option is the one that is found. -/
lemma find?_of_membersOf {m : String × Json} (h : membersOf option ms = [m]) :
    find? option ms = some m := by
  cases found : find? option ms with
  | none => simp [find?_eq_none_iff.mp found] at h
  | some m' =>
    have among := mem_membersOf_of_find? found
    rw [h, List.mem_singleton] at among
    rw [among]

/-- An option that is given at most once is missing, or it is given by one member. -/
lemma membersOf_cases (once : (membersOf option ms).length ≤ 1) :
    membersOf option ms = [] ∨ ∃ m, membersOf option ms = [m] := by
  cases h : membersOf option ms with
  | nil => exact .inl rfl
  | cons m rest =>
    have none : rest.length = 0 := by
      simpa [h] using once
    exact .inr ⟨m, by rw [List.eq_nil_of_length_eq_zero none]⟩

/-- Where no option is given twice, nothing is left over exactly if each key is a spelling. -/
lemma noExtras_eq_accepted_iff_forall {options : List Spellings} (once : GivenOnce options ms) :
    noExtras options ms = .accepted () ↔ ∀ m ∈ ms, ∃ option ∈ options, m.1 ∈ option := by
  rw [noExtras_eq_accepted_iff_find?]
  constructor
  · intro used m hm
    obtain ⟨option, known, v, found⟩ := used m.1 (mem_keys_iff.mp (List.mem_map_of_mem hm))
    exact ⟨option, known, (mem_membersOf.mp (mem_membersOf_of_find? found)).2⟩
  · intro known key given
    obtain ⟨m, hm, rfl⟩ := List.mem_map.mp (mem_keys_iff.mpr given)
    obtain ⟨option, ho, hk⟩ := known m hm
    have among := mem_membersOf.mpr ⟨hm, hk⟩
    rcases membersOf_cases (once option ho) with none | ⟨m', one⟩
    · simp [none] at among
    · rw [one, List.mem_singleton] at among
      exact ⟨option, ho, m.2, among ▸ find?_of_membersOf one⟩

/-! ### Tables of options -/

/-- The options that a mapping may hold; no key is a spelling of two of them. -/
structure OptionTable where
  options : List Spellings
  apart : ∀ option ∈ options, ∀ option' ∈ options, ∀ key ∈ option, key ∈ option' → option = option'

/-- The options of a fetcher, of whatever kind. -/
def fetcherTable : OptionTable where
  options := [kindKey, endpointKey, paramsKey, functionKey, lazyKey]
  apart := by decide

/-- The options of a fragment from elsewhere. -/
def fragmentTable : OptionTable where
  options := [nameKey, onTypeKey]
  apart := by decide

/-- The spellings under which fragments from elsewhere are listed. -/
def fragmentsKey : Spellings := ["externalFragments", "external_fragments"]

/-- The options at the top. -/
def settingsTable : OptionTable where
  options := [["fetcher"], ["exposeQueryKeys", "expose_query_keys"],
    ["omitOperationSuffix", "omit_operation_suffix"],
    ["importOperationTypesFrom", "import_operation_types_from"], fragmentsKey,
    ["documentVariableSuffix", "document_variable_suffix"],
    ["fragmentVariableSuffix", "fragment_variable_suffix"], ["hookModule", "hook_module"]]
  apart := by decide

/-- Keys that stand for the same: one key, or two spellings of one option. -/
inductive OptionTable.SameKey (t : OptionTable) : String → String → Prop
  | refl (key : String) : SameKey t key key
  | spellings (option : Spellings) {key key' : String} (known : option ∈ t.options)
      (h : key ∈ option) (h' : key' ∈ option) : SameKey t key key'

/-- The same members in another order, each perhaps with another spelling for its key, and with a
value that is alike under that key. -/
def OptionTable.Rewritten (t : OptionTable) (Alike : String → Json → Json → Prop)
    (ms ms' : List (String × Json)) : Prop :=
  ∃ between, ms.Perm between ∧
    List.Forall₂ (fun m m' => t.SameKey m.1 m'.1 ∧ Alike m.1 m.2 m'.2) between ms'

/-- The same members in another order, each perhaps with another spelling for its key. -/
abbrev OptionTable.Respelled (t : OptionTable) (ms ms' : List (String × Json)) : Prop :=
  t.Rewritten (fun _ => Eq) ms ms'

namespace OptionTable

variable {t : OptionTable} {Alike : String → Json → Json → Prop} {options : List Spellings}

/-- Keys that stand for the same are spellings of the same options. -/
lemma SameKey.mem_iff (h : t.SameKey key key') (known : option ∈ t.options) :
    key ∈ option ↔ key' ∈ option := by
  cases h with
  | refl => rfl
  | @spellings option' _ _ known' hk hk' =>
    constructor
    · intro h
      exact t.apart _ known' _ known key hk h ▸ hk'
    · intro h
      exact t.apart _ known' _ known key' hk' h ▸ hk

/-- What gives an option is rewritten as part of the whole. -/
lemma Rewritten.given (h : t.Rewritten Alike ms ms') (known : option ∈ t.options) :
    t.Rewritten Alike (membersOf option ms) (membersOf option ms') := by
  obtain ⟨between, perm, alike⟩ := h
  refine ⟨membersOf option between, perm.filter _, List.rel_filter ?_ alike⟩
  intro m m' same
  simpa using same.1.mem_iff known

/-- An option that is given at most once is missing in both, or is given by members alike. -/
lemma Rewritten.found (h : t.Rewritten Alike ms ms') (known : option ∈ t.options)
    (once : GivenOnce t.options ms) :
    find? option ms = none ∧ find? option ms' = none ∨
      ∃ m m', find? option ms = some m ∧ find? option ms' = some m' ∧ m ∈ ms ∧ m.1 ∈ option ∧
        Alike m.1 m.2 m'.2 := by
  obtain ⟨between, perm, alike⟩ := h.given known
  rcases membersOf_cases (once option known) with none | ⟨m, one⟩
  · rw [none] at perm
    rw [perm.nil_eq.symm] at alike
    cases hm : membersOf option ms' with
    | nil => exact .inl ⟨find?_eq_none_iff.mpr none, find?_eq_none_iff.mpr hm⟩
    | cons m rest =>
      rw [hm] at alike
      cases alike
  · rw [one] at perm
    rw [List.singleton_perm.mp perm |>.symm] at alike
    have among : m ∈ membersOf option ms := one ▸ List.mem_singleton_self m
    obtain ⟨there, spelled⟩ := mem_membersOf.mp among
    generalize one' : membersOf option ms' = rest at alike
    cases alike with
    | cons same rest =>
      cases rest
      exact .inr ⟨m, _, find?_of_membersOf one, find?_of_membersOf one', there, spelled, same.2⟩

lemma Rewritten.optional {α : Type} {default : α} {decode : Json → Decoded α}
    (h : t.Rewritten Alike ms ms') (known : option ∈ t.options) (once : GivenOnce t.options ms)
    (alike : ∀ m ∈ ms, m.1 ∈ option → ∀ v, Alike m.1 m.2 v →
      (decode m.2).value? = (decode v).value?) :
    (optional default decode option ms).value? = (optional default decode option ms').value? := by
  rw [Decode.optional, Decode.optional]
  rcases h.found known once with ⟨none, none'⟩ | ⟨m, m', some, some', there, spelled, same⟩
  · rw [none, none']
  · rw [some, some']
    simpa using alike m there spelled m'.2 same

lemma Rewritten.required {α : Type} {decode : Json → Decoded α} (h : t.Respelled ms ms')
    (option : Spellings) (known : option ∈ t.options) (once : GivenOnce t.options ms) :
    (required decode option ms).value? = (required decode option ms').value? := by
  rw [Decode.required, Decode.required]
  rcases h.found known once with ⟨none, none'⟩ | ⟨m, m', some, some', -, -, same⟩
  · rw [none, none']
  · simp [some, some', same]

/-- An option with a value that is the same in both. -/
lemma Rewritten.optional_same {α : Type} {default : α} {decode : Json → Decoded α}
    (h : t.Respelled ms ms') (option : Spellings) (known : option ∈ t.options)
    (once : GivenOnce t.options ms) :
    (Decode.optional default decode option ms).value? =
      (Decode.optional default decode option ms').value? := by
  apply h.optional known once
  rintro m - - v rfl
  rfl

lemma Rewritten.lookupMember_eq (h : t.Respelled ms ms') (key : String)
    (known : [key] ∈ t.options) (once : GivenOnce t.options ms) :
    lookupMember key ms = lookupMember key ms' := by
  have found := h.found known once
  rw [find?_single, find?_single] at found
  rcases found with ⟨none, none'⟩ | ⟨m, m', some, some', -, -, same⟩
  · rw [Option.map_eq_none_iff.mp none, Option.map_eq_none_iff.mp none']
  · obtain ⟨v, given, rfl⟩ := Option.map_eq_some_iff.mp some
    obtain ⟨v', given', rfl⟩ := Option.map_eq_some_iff.mp some'
    have same : v = v' := same
    rw [given, given', same]

/-- No option is given more often than before. -/
lemma Rewritten.givenOnce (h : t.Rewritten Alike ms ms') (once : GivenOnce t.options ms) :
    GivenOnce t.options ms' := by
  intro option known
  obtain ⟨between, perm, alike⟩ := h.given known
  rw [← alike.length_eq, ← perm.length_eq]
  exact once option known

/-- What holds of all keys does so whatever their spelling. -/
lemma Rewritten.forall_keys {P : String → Prop} (h : t.Rewritten Alike ms ms')
    (respects : ∀ key key', t.SameKey key key' → (P key ↔ P key')) :
    (∀ m ∈ ms, P m.1) ↔ ∀ m ∈ ms', P m.1 := by
  obtain ⟨between, perm, alike⟩ := h
  simp only [perm.mem_iff]
  clear perm
  induction alike with
  | nil => rfl
  | cons same _ ih => rw [List.forall_mem_cons, List.forall_mem_cons, ih, respects _ _ same.1]

/-- Some of the options of a table use up all members, or they do not, whatever the spelling. -/
lemma Rewritten.noExtras (h : t.Respelled ms ms') (options : List Spellings)
    (known : ∀ option ∈ options, option ∈ t.options) (once : GivenOnce t.options ms) :
    (noExtras options ms).value? = (noExtras options ms').value? := by
  have some_once : GivenOnce options ms := fun option ho => once option (known option ho)
  have some_once' : GivenOnce options ms' :=
    fun option ho => h.givenOnce once option (known option ho)
  apply Decoded.value?_congr_unit
  rw [noExtras_eq_accepted_iff_forall some_once, noExtras_eq_accepted_iff_forall some_once']
  apply h.forall_keys (P := fun key => ∃ option ∈ options, key ∈ option)
  intro key key' same
  apply exists_congr
  intro option
  apply and_congr_right
  intro ho
  exact same.mem_iff (known option ho)

lemma Rewritten.cons (h : t.Respelled ms ms') (m : String × Json) :
    t.Respelled (m :: ms) (m :: ms') := by
  obtain ⟨between, perm, alike⟩ := h
  exact ⟨m :: between, perm.cons m, .cons ⟨.refl m.1, rfl⟩ alike⟩

end OptionTable

/-! ### Fetchers -/

/-- Members of a fetcher with a kind in front of them, where they have none. -/
lemma GivenOnce.cons_kind {v : Json} (once : GivenOnce fetcherTable.options ms)
    (unkinded : lookupMember "kind" ms = none) :
    GivenOnce fetcherTable.options (("kind", v) :: ms) := by
  intro option known
  by_cases kind : "kind" ∈ option
  · have isKind : option = kindKey := fetcherTable.apart option known kindKey (by decide) "kind"
      kind (by decide)
    have missing : membersOf option ms = [] := by
      rw [← find?_eq_none_iff, isKind, kindKey, find?_single, unkinded, Option.map_none]
    rw [membersOf, List.filter_cons_of_pos (by simpa using kind), ← membersOf, missing]
    exact Nat.le_refl 1
  · rw [membersOf, List.filter_cons_of_neg (by simpa using kind)]
    exact once option known

section fetchers

variable (h : fetcherTable.Respelled ms ms') (once : GivenOnce fetcherTable.options ms)
include h once

lemma fetcherMembers_respelled (kind : FetcherKind) :
    (fetcherMembers kind ms).value? = (fetcherMembers kind ms').value? := by
  have checked : (Decode.optional () (kindWord kind) kindKey ms).value? =
      (Decode.optional () (kindWord kind) kindKey ms').value? :=
    h.optional_same kindKey (by decide) once
  cases kind with
  | browser =>
    simp only [fetcherMembers, Decoded.value?_seq, Decoded.value?_map, checked,
      h.noExtras [kindKey] (by decide) once]
  | client =>
    simp only [fetcherMembers, Decoded.value?_seq, Decoded.value?_map, checked,
      h.noExtras [kindKey] (by decide) once]
  | hardcoded =>
    simp only [fetcherMembers, Decoded.value?_seq, Decoded.value?_map, checked,
      h.required endpointKey (by decide) once,
      h.optional_same paramsKey (by decide) once,
      h.noExtras [kindKey, endpointKey, paramsKey] (by decide) once]
  | custom =>
    simp only [fetcherMembers, Decoded.value?_seq, Decoded.value?_map, checked,
      h.required functionKey (by decide) once,
      h.optional_same lazyKey (by decide) once,
      h.noExtras [kindKey, functionKey, lazyKey] (by decide) once]

lemma taggedFetcher_respelled : (taggedFetcher ms).value? = (taggedFetcher ms').value? := by
  rw [taggedFetcher, taggedFetcher, h.lookupMember_eq "kind" (by decide) once]
  cases lookupMember "kind" ms' with
  | none => rfl
  | some tag =>
    dsimp only
    split
    · simpa using fetcherMembers_respelled h once _
    · rfl

/-- A fetcher shows its kind in the same way, whatever the order and the spelling of its members. -/
lemma fetcher_respelled : (fetcher (.obj ms)).value? = (fetcher (.obj ms')).value? := by
  have kind := h.lookupMember_eq "kind" (by decide) once
  have endpoint := h.lookupMember_eq "endpoint" (by decide) once
  have function := h.lookupMember_eq "func" (by decide) once
  rw [fetcher, fetcher]
  simp only [kind, endpoint, function]
  split_ifs with kinded placed named
  · exact taggedFetcher_respelled h once
  · exact taggedFetcher_respelled (h.cons _) (once.cons_kind (kind.trans (by simpa using kinded)))
  · exact taggedFetcher_respelled (h.cons _) (once.cons_kind (kind.trans (by simpa using kinded)))
  · rfl

end fetchers

/-! ### Fragments from elsewhere -/

/-- A fragment from elsewhere, and the same one in another spelling; what is no mapping is the
same. -/
inductive FragmentAlike : Json → Json → Prop
  | refl (v : Json) : FragmentAlike v v
  | members {ms ms' : List (String × Json)} (h : fragmentTable.Respelled ms ms') :
    FragmentAlike (.obj ms) (.obj ms')

lemma externalFragment_alike {v v' : Json} (alike : FragmentAlike v v')
    (once : ∀ ms, v = .obj ms → GivenOnce fragmentTable.options ms) :
    (externalFragment v).value? = (externalFragment v').value? := by
  cases alike with
  | refl => rfl
  | members h =>
    have once := once _ rfl
    simp only [externalFragment, model, Decoded.value?_seq, Decoded.value?_map,
      h.required nameKey (by decide) once,
      h.optional_same onTypeKey (by decide) once,
      h.noExtras [nameKey, onTypeKey] (by decide) once]

lemma items_alike {vs vs' : List Json} (alike : List.Forall₂ FragmentAlike vs vs')
    (once : ∀ ms, .obj ms ∈ vs → GivenOnce fragmentTable.options ms) (i : Nat) :
    (items externalFragment i vs).value? = (items externalFragment i vs').value? := by
  induction alike generalizing i with
  | nil => rfl
  | @cons v v' vs vs' same _ ih =>
    have first := externalFragment_alike same fun ms h => once ms (h ▸ List.mem_cons_self)
    have rest := ih (fun ms h => once ms (List.mem_cons_of_mem _ h)) (i + 1)
    simp only [items, Decoded.value?_seq, Decoded.value?_map, Decoded.value?_under, first, rest]

/-! ### Settings -/

/-- Values that are alike under a key at the top: the members of a fetcher, and those of a fragment
from elsewhere, may be rewritten in turn. -/
inductive AlikeUnder : String → Json → Json → Prop
  | refl (key : String) (v : Json) : AlikeUnder key v v
  | fetcher {ms ms' : List (String × Json)} (h : fetcherTable.Respelled ms ms') :
    AlikeUnder "fetcher" (.obj ms) (.obj ms')
  | fragments {key : String} {vs vs' : List Json} (spelled : key ∈ fragmentsKey)
      (h : List.Forall₂ FragmentAlike vs vs') : AlikeUnder key (.arr vs) (.arr vs')

/-- The members whose keys are spellings of an option. -/
def recognized (ms : List (String × Json)) : List (String × Json) :=
  ms.filter fun m => ∃ option ∈ settingsTable.options, m.1 ∈ option

/-- The same options, written down in two ways: apart from keys that no option has, the members of
one are those of the other in some order and spelling. -/
def SameOptions (ms ms' : List (String × Json)) : Prop :=
  settingsTable.Rewritten AlikeUnder (recognized ms) (recognized ms')

/-- No option is given more than once, neither at the top nor in the fetcher nor in a fragment from
elsewhere. -/
structure OptionsGivenOnce (ms : List (String × Json)) : Prop where
  top : GivenOnce settingsTable.options ms
  fetcher : ∀ fs, ("fetcher", .obj fs) ∈ ms → GivenOnce fetcherTable.options fs
  fragments : ∀ key ∈ fragmentsKey, ∀ vs, (key, .arr vs) ∈ ms →
    ∀ es, .obj es ∈ vs → GivenOnce fragmentTable.options es

lemma OptionsGivenOnce.recognized (once : OptionsGivenOnce ms) :
    OptionsGivenOnce (recognized ms) where
  top := by
    intro option known
    have fewer : (membersOf option (Decode.recognized ms)).Sublist (membersOf option ms) :=
      List.filter_sublist.filter _
    exact Nat.le_trans fewer.length_le (once.top option known)
  fetcher fs given := once.fetcher fs (List.mem_of_mem_filter given)
  fragments key spelled vs given := once.fragments key spelled vs (List.mem_of_mem_filter given)

lemma find?_recognized (known : option ∈ settingsTable.options) :
    find? option (recognized ms) = find? option ms := by
  apply find?_congr
  intro key hk
  induction ms with
  | nil => rfl
  | cons m ms ih =>
    rw [recognized, List.filter_cons, ← recognized]
    by_cases same : m.1 = key
    · have kept : ∃ option ∈ settingsTable.options, m.1 ∈ option := ⟨option, known, same ▸ hk⟩
      rw [if_pos (by simpa using kept), lookupMember, lookupMember, if_pos same, if_pos same]
    · split
      · rw [lookupMember, lookupMember, if_neg same, if_neg same, ih]
      · rw [lookupMember, if_neg same, ih]

/-- Keys that no option has make no difference. -/
lemma settingsMembers_recognized : settingsMembers (recognized ms) = settingsMembers ms := by
  have found : ∀ option ∈ settingsTable.options, find? option (recognized ms) = find? option ms :=
    fun _ => find?_recognized
  simp only [settingsTable, fragmentsKey, List.forall_mem_cons] at found
  simp only [settingsMembers, optional, found]

/-- Under most options a value is alike only to itself. -/
lemma AlikeUnder.eq {v v' : Json} (alike : AlikeUnder key v v')
    (known : option ∈ settingsTable.options) (spelled : key ∈ option)
    (other : option ≠ ["fetcher"]) (other' : option ≠ fragmentsKey) : v = v' := by
  have apart := settingsTable.apart option known
  cases alike with
  | refl => rfl
  | fetcher => exact absurd (apart ["fetcher"] (by decide) "fetcher" spelled (by decide)) other
  | fragments listed => exact absurd (apart fragmentsKey (by decide) key spelled listed) other'

lemma settingsMembers_rewritten (h : settingsTable.Rewritten AlikeUnder ms ms')
    (once : OptionsGivenOnce ms) :
    (settingsMembers ms).value? = (settingsMembers ms').value? := by
  have plain {α : Type} {default : α} {decode : Json → Decoded α} (option : Spellings)
      (known : option ∈ settingsTable.options) (other : option ≠ ["fetcher"])
      (other' : option ≠ fragmentsKey) :
      (optional default decode option ms).value? = (optional default decode option ms').value? := by
    apply h.optional known once.top
    rintro m - spelled v alike
    rw [alike.eq known spelled other other']
  have fetched : (optional Settings.default.fetcher fetcher ["fetcher"] ms).value? =
      (optional Settings.default.fetcher fetcher ["fetcher"] ms').value? := by
    apply h.optional (by decide) once.top
    rintro ⟨key, v⟩ given spelled v' alike
    cases alike with
    | refl => rfl
    | fetcher respelled => exact fetcher_respelled respelled (once.fetcher _ given)
    | fragments listed =>
      exact absurd (settingsTable.apart ["fetcher"] (by decide) fragmentsKey (by decide) key spelled
        listed) (by decide)
  have listed : (optional Settings.default.externalFragments (list externalFragment) fragmentsKey
      ms).value? = (optional Settings.default.externalFragments (list externalFragment) fragmentsKey
      ms').value? := by
    apply h.optional (by decide) once.top
    rintro ⟨key, v⟩ given spelled v' alike
    cases alike with
    | refl => rfl
    | fetcher => simp [fragmentsKey] at spelled
    | fragments listed alike => exact items_alike alike (once.fragments key listed _ given) 0
  rw [fragmentsKey] at listed
  simp only [settingsMembers, Decoded.value?_seq, Decoded.value?_map, fetched, listed,
    plain ["exposeQueryKeys", "expose_query_keys"] (by decide) (by decide) (by decide),
    plain ["omitOperationSuffix", "omit_operation_suffix"] (by decide) (by decide) (by decide),
    plain ["importOperationTypesFrom", "import_operation_types_from"] (by decide) (by decide)
      (by decide),
    plain ["documentVariableSuffix", "document_variable_suffix"] (by decide) (by decide)
      (by decide),
    plain ["fragmentVariableSuffix", "fragment_variable_suffix"] (by decide) (by decide)
      (by decide),
    plain ["hookModule", "hook_module"] (by decide) (by decide) (by decide)]

lemma settings_obj (ms : List (String × Json)) :
    Decode.settings (.obj ms) = settingsMembers ms := by
  cases ms <;> rfl

/-- Raw options in which no option is given twice are accepted or refused whatever the order of
their members and of those of the fetcher, whatever the spellings at the top, in the fetcher and in
fragments from elsewhere, and whatever keys stand there that no option has; and if they are
accepted, they stand for the same settings. -/
theorem settings_insensitive (once : OptionsGivenOnce ms) (same : SameOptions ms ms')
    (settings : Settings) :
    Decode.settings (.obj ms) = .accepted settings ↔
      Decode.settings (.obj ms') = .accepted settings := by
  have decoded := settingsMembers_rewritten same once.recognized
  rw [settingsMembers_recognized, settingsMembers_recognized] at decoded
  rw [settings_obj, settings_obj, Decoded.eq_accepted_iff_value?, Decoded.eq_accepted_iff_value?,
    decoded]

/-- Options in snake case and in another order, beside other keys that no option has. -/
theorem settings_insensitive_snake :
    let params : Json := .obj [("mode", .str "cors"), ("keepalive", .bool true)]
    let ms : List (String × Json) :=
      [("scalars", .null),
        ("fetcher", .obj [("endpoint", .str "API_URL"), ("fetchParams", params)]),
        ("exposeQueryKeys", .bool true),
        ("externalFragments", .arr [.obj [("name", .str "F"), ("onType", .str "T")]])]
    let ms' : List (String × Json) :=
      [("external_fragments", .arr [.obj [("on_type", .str "T"), ("name", .str "F")]]),
        ("expose_query_keys", .bool true),
        ("fetcher", .obj [("fetch_params", params), ("endpoint", .str "API_URL")]),
        ("dedupeFragments", .bool true)]
    ∃ settings, Decode.settings (.obj ms) = .accepted settings ∧
      Decode.settings (.obj ms') = .accepted settings := by
  intro params ms ms'
  have once : OptionsGivenOnce ms := by
    refine ⟨by decide, ?_, ?_⟩
    · intro fs given
      simp [ms] at given
      exact given ▸ by decide
    · intro key spelled vs given es among
      simp [ms] at given
      simp [given] at among
      exact among ▸ by decide
  have fetcher : fetcherTable.Respelled [("endpoint", .str "API_URL"), ("fetchParams", params)]
      [("fetch_params", params), ("endpoint", .str "API_URL")] :=
    ⟨_, List.Perm.swap _ _ _, .cons ⟨.spellings paramsKey (by decide) (by decide)
      (by decide), rfl⟩ (.cons ⟨.refl _, rfl⟩ .nil)⟩
  have fragment : fragmentTable.Respelled [("name", .str "F"), ("onType", .str "T")]
      [("on_type", .str "T"), ("name", .str "F")] :=
    ⟨_, List.Perm.swap _ _ _, .cons ⟨.spellings onTypeKey (by decide) (by decide)
      (by decide), rfl⟩ (.cons ⟨.refl _, rfl⟩ .nil)⟩
  have same : SameOptions ms ms' := by
    refine ⟨_, (List.reverse_perm _).symm,
      .cons ⟨?_, ?_⟩ (.cons ⟨?_, ?_⟩ (.cons ⟨.refl _, ?_⟩ .nil))⟩
    · exact .spellings fragmentsKey (by decide) (by decide) (by decide)
    · exact .fragments (by decide) (.cons (.members fragment) .nil)
    · exact .spellings ["exposeQueryKeys", "expose_query_keys"] (by decide) (by decide)
        (by decide)
    · exact .refl _ _
    · exact .fetcher fetcher
  exact ⟨_, rfl, (settings_insensitive once same _).mp rfl⟩

end Decode

end OperationHooks
