import Mathlib.Tactic.Common
import OperationHooks.Settings.Decode

/-!
# Options, one by one

Settings are accepted exactly when each option is, and an option is decoded from what stands under
its spellings alone. So raw options that agree under all other keys decode to settings that agree in
all other fields.
-/

namespace OperationHooks

/-! ### Decoding several parts -/

namespace Decoded

variable {α β : Type}

lemma map_eq_accepted_iff {f : α → β} {x : Decoded α} {b : β} :
    f <$> x = .accepted b ↔ ∃ a, x = .accepted a ∧ f a = b := by
  change map f x = _ ↔ _
  cases x <;> simp [map]

/-- Two parts are accepted together exactly when each of them is. -/
lemma seq_eq_accepted_iff {f : Decoded (α → β)} {x : Decoded α} {b : β} :
    f <*> x = .accepted b ↔ ∃ g, f = .accepted g ∧ ∃ a, x = .accepted a ∧ g a = b := by
  change both f x = _ ↔ _
  cases f <;> cases x <;> simp [both]

end Decoded

namespace Decode

/-! ### Members -/

/-- The members of raw options; options that are no mapping have none. -/
def members : Json → List (String × Json)
  | .obj ms => ms
  | _ => []

/-- Under all keys but some, the same values stand in both. -/
def AgreeBeside (keys : Spellings) (raw raw' : Json) : Prop :=
  ∀ key ∉ keys, lookupMember key (members raw) = lookupMember key (members raw')

lemma find?_congr {spellings : Spellings} {ms ms' : List (String × Json)}
    (h : ∀ k ∈ spellings, lookupMember k ms = lookupMember k ms') :
    find? spellings ms = find? spellings ms' := by
  induction spellings with
  | nil => rfl
  | cons k spellings ih =>
    have rest := ih fun k hk => h k (List.mem_cons_of_mem _ hk)
    rw [find?, find?] at rest
    rw [find?, find?, List.findSome?_cons, List.findSome?_cons, h k List.mem_cons_self, rest]

/-- Where keys differ that are no spelling of an option, its value is the same. -/
lemma AgreeBeside.value_eq {keys spellings : Spellings} {raw raw' : Json} {α : Type}
    {default a a' : α} {decode : Json → Decoded α} (agree : AgreeBeside keys raw raw')
    (apart : ∀ k ∈ spellings, k ∉ keys)
    (h : optional default decode spellings (members raw) = .accepted a)
    (h' : optional default decode spellings (members raw') = .accepted a') : a = a' := by
  have same : find? spellings (members raw) = find? spellings (members raw') := by
    apply find?_congr
    intro k hk
    exact agree k (apart k hk)
  rw [optional, same] at h
  rw [optional, h] at h'
  exact Decoded.accepted.inj h'

/-! ### Settings -/

/-- Settings are accepted exactly when each option is, by itself. -/
lemma settingsMembers_eq_accepted_iff {ms : List (String × Json)} {settings : Settings} :
    settingsMembers ms = .accepted settings ↔
      optional .browser fetcher ["fetcher"] ms = .accepted settings.fetcher ∧
      optional false boolean ["exposeQueryKeys", "expose_query_keys"] ms =
        .accepted settings.exposeQueryKeys ∧
      optional false boolean ["omitOperationSuffix", "omit_operation_suffix"] ms =
        .accepted settings.omitOperationSuffix ∧
      optional none textOrNull ["importOperationTypesFrom", "import_operation_types_from"] ms =
        .accepted settings.importOperationTypesFrom ∧
      optional [] (list externalFragment) ["externalFragments", "external_fragments"] ms =
        .accepted settings.externalFragments ∧
      optional "Document" text ["documentVariableSuffix", "document_variable_suffix"] ms =
        .accepted settings.documentSuffix ∧
      optional "FragmentDoc" text ["fragmentVariableSuffix", "fragment_variable_suffix"] ms =
        .accepted settings.fragmentSuffix ∧
      optional "react-query" text ["hookModule", "hook_module"] ms =
        .accepted settings.hookModule := by
  simp only [settingsMembers, Decoded.seq_eq_accepted_iff, Decoded.map_eq_accepted_iff,
    Settings.default]
  constructor
  · rintro ⟨_, ⟨_, ⟨_, ⟨_, ⟨_, ⟨_, ⟨_, ⟨f, hf, rfl⟩, e, he, rfl⟩, o, ho, rfl⟩, i, hi, rfl⟩,
      x, hx, rfl⟩, d, hd, rfl⟩, s, hs, rfl⟩, m, hm, rfl⟩
    exact ⟨hf, he, ho, hi, hx, hd, hs, hm⟩
  · rintro ⟨hf, he, ho, hi, hx, hd, hs, hm⟩
    exact ⟨_, ⟨_, ⟨_, ⟨_, ⟨_, ⟨_, ⟨_, ⟨_, hf, rfl⟩, _, he, rfl⟩, _, ho, rfl⟩, _, hi, rfl⟩,
      _, hx, rfl⟩, _, hd, rfl⟩, _, hs, rfl⟩, _, hm, rfl⟩

/-- Accepted options are a mapping, or what counts as none at all. -/
lemma settingsMembers_of_accepted {raw : Json} {settings : Settings}
    (h : Decode.settings raw = .accepted settings) :
    settingsMembers (members raw) = .accepted settings := by
  cases raw with
  | obj ms =>
    cases ms with
    | nil => exact h
    | cons m ms => exact h
  | _ =>
    rw [Decode.settings] at h
    split at h
    · exact h
    · cases h

/-- Options that agree beside some keys are decoded to settings that agree in every option that has
none of these keys. -/
lemma AgreeBeside.settings_eq {keys : Spellings} {raw raw' : Json} {settings settings' : Settings}
    (agree : AgreeBeside keys raw raw') (h : Decode.settings raw = .accepted settings)
    (h' : Decode.settings raw' = .accepted settings') :
    ((∀ k ∈ ["fetcher"], k ∉ keys) → settings'.fetcher = settings.fetcher) ∧
    ((∀ k ∈ ["exposeQueryKeys", "expose_query_keys"], k ∉ keys) →
      settings'.exposeQueryKeys = settings.exposeQueryKeys) ∧
    ((∀ k ∈ ["omitOperationSuffix", "omit_operation_suffix"], k ∉ keys) →
      settings'.omitOperationSuffix = settings.omitOperationSuffix) ∧
    ((∀ k ∈ ["importOperationTypesFrom", "import_operation_types_from"], k ∉ keys) →
      settings'.importOperationTypesFrom = settings.importOperationTypesFrom) ∧
    ((∀ k ∈ ["externalFragments", "external_fragments"], k ∉ keys) →
      settings'.externalFragments = settings.externalFragments) ∧
    ((∀ k ∈ ["documentVariableSuffix", "document_variable_suffix"], k ∉ keys) →
      settings'.documentSuffix = settings.documentSuffix) ∧
    ((∀ k ∈ ["fragmentVariableSuffix", "fragment_variable_suffix"], k ∉ keys) →
      settings'.fragmentSuffix = settings.fragmentSuffix) ∧
    ((∀ k ∈ ["hookModule", "hook_module"], k ∉ keys) →
      settings'.hookModule = settings.hookModule) := by
  obtain ⟨f, e, o, i, x, d, s, m⟩ :=
    settingsMembers_eq_accepted_iff.mp (settingsMembers_of_accepted h)
  obtain ⟨f', e', o', i', x', d', s', m'⟩ :=
    settingsMembers_eq_accepted_iff.mp (settingsMembers_of_accepted h')
  exact ⟨fun apart => (agree.value_eq apart f f').symm, fun apart => (agree.value_eq apart e e').symm,
    fun apart => (agree.value_eq apart o o').symm, fun apart => (agree.value_eq apart i i').symm,
    fun apart => (agree.value_eq apart x x').symm, fun apart => (agree.value_eq apart d d').symm,
    fun apart => (agree.value_eq apart s s').symm, fun apart => (agree.value_eq apart m m').symm⟩

/-- Options that differ in the fetcher alone are decoded to settings that do. -/
lemma settings_beside_fetcher {raw raw' : Json} {settings settings' : Settings}
    (agree : AgreeBeside ["fetcher"] raw raw') (h : Decode.settings raw = .accepted settings)
    (h' : Decode.settings raw' = .accepted settings') :
    settings' = { settings with fetcher := settings'.fetcher } := by
  obtain ⟨-, e, o, i, x, d, s, m⟩ := agree.settings_eq h h'
  rw [Settings.mk.injEq]
  exact ⟨rfl, e (by decide), o (by decide), i (by decide), x (by decide), d (by decide),
    s (by decide), m (by decide)⟩

/-- The spellings of the option that exposes the keys of queries. -/
def exposeKey : Spellings := ["exposeQueryKeys", "expose_query_keys"]

/-- Options that differ in whether the keys of queries are exposed are decoded to settings that
do. -/
lemma settings_beside_exposeKey {raw raw' : Json} {settings settings' : Settings}
    (agree : AgreeBeside exposeKey raw raw') (h : Decode.settings raw = .accepted settings)
    (h' : Decode.settings raw' = .accepted settings') :
    settings' = { settings with exposeQueryKeys := settings'.exposeQueryKeys } := by
  obtain ⟨f, -, o, i, x, d, s, m⟩ := agree.settings_eq h h'
  rw [Settings.mk.injEq]
  exact ⟨f (by decide), rfl, o (by decide), i (by decide), x (by decide), d (by decide),
    s (by decide), m (by decide)⟩

end Decode

end OperationHooks
