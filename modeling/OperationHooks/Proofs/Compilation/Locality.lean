import Mathlib.Data.List.Perm.Basic
import OperationHooks.Proofs.Fragments.Known

/-!
# What a binding depends on

The text emitted for an operation is a function of the settings, the operation and the fragments
that the operation reaches. Two runs under the same options that agree on these emit the same text
for it, whatever else their documents hold, and in whatever order and files they hold it.
-/

namespace OperationHooks

open Compiler

/-- The queries and mutations of documents, in order. -/
def boundOperations (documents : List Document) : List Operation :=
  (operationsOf documents.flatten).filter fun o => o.kind ≠ .subscription

/-- A text that is emitted for an operation: it stands in the place of the operation. -/
def Emits (m : GeneratedModule) (documents : List Document) (o : Operation) (t : String) : Prop :=
  ∃ i : Nat, (boundOperations documents)[i]? = some o ∧ (m.bindings.map Binding.text)[i]? = some t

/-- In both modules one text is emitted for an operation, the same in both. -/
def EmittedAlike (m₁ : GeneratedModule) (D₁ : List Document) (m₂ : GeneratedModule)
    (D₂ : List Document) (o : Operation) : Prop :=
  ∃ t, ∀ t', (Emits m₁ D₁ o t' ↔ t' = t) ∧ (Emits m₂ D₂ o t' ↔ t' = t)

/-! ### One run -/

lemma forall₂_getElem? {α β : Type} {R : α → β → Prop} {xs : List α} {ys : List β}
    (h : List.Forall₂ R xs ys) {i : Nat} {x : α} (hx : xs[i]? = some x) :
    ∃ y, ys[i]? = some y ∧ R x y := by
  induction h generalizing i with
  | nil => simp at hx
  | cons hxy _ ih =>
    cases i with
    | zero =>
      cases hx
      exact ⟨_, rfl, hxy⟩
    | succ i => exact ih hx

/-- What is emitted for an operation is the text of its binding. -/
lemma emits_iff {settings : Settings} {s : Strategy} {documents : List Document} {o : Operation}
    {b : Binding} (ho : o ∈ boundOperations documents)
    (hb : (compilerFor settings s documents.flatten).binding? s o = some b) (t : String) :
    Emits ((compilerFor settings s documents.flatten).module documents.flatten) documents o t ↔
      t = b.text := by
  have image := bindings_image settings s documents.flatten
  constructor
  · rintro ⟨i, hi, ht⟩
    obtain ⟨b', hb', h⟩ := forall₂_getElem? image hi
    rw [List.getElem?_map, hb', Option.map_some, Option.some_inj] at ht
    rw [hb, Option.some_inj] at h
    rw [← ht, h]
  · rintro rfl
    obtain ⟨i, hi⟩ := List.mem_iff_getElem?.mp ho
    obtain ⟨b', hb', h⟩ := forall₂_getElem? image hi
    rw [hb, Option.some_inj] at h
    exact ⟨i, hi, by rw [List.getElem?_map, hb', h, Option.map_some]⟩

lemma mem_boundOperations {documents : List Document} {o : Operation}
    (ho : .operation o ∈ documents.flatten) (kind : o.kind ≠ .subscription) :
    o ∈ boundOperations documents := by
  refine List.mem_filter.mpr ⟨List.mem_filterMap.mpr ⟨_, ho, rfl⟩, ?_⟩
  simpa using kind

lemma kind_of_mem_boundOperations {documents : List Document} {o : Operation}
    (h : o ∈ boundOperations documents) : o.kind ≠ .subscription := by
  simpa using (List.mem_filter.mp h).2

lemma boundOperations_ne_nil_iff {documents : List Document} :
    boundOperations documents ≠ [] ↔
      ∃ o ∈ operationsOf documents.flatten, o.kind ≠ .subscription := by
  simp [boundOperations]

/-! ### Two runs -/

/-- The library of fragments matters to a binding only for the fragments that are sent. -/
lemma binding?_congr {c c' : Compiler} (s : Strategy) {o : Operation}
    (hset : c.settings = c'.settings)
    (hsent : c.library.transitive o.spreads = c'.library.transitive o.spreads) :
    c.binding? s o = c'.binding? s o := by
  obtain ⟨settings, lib, s₀⟩ := c
  obtain ⟨settings', lib', s₁⟩ := c'
  dsimp only at hset hsent
  subst hset
  have hook : hook? ⟨settings, lib, s₀⟩ s o = hook? ⟨settings, lib', s₁⟩ s o := rfl
  have document : documentConstant ⟨settings, lib, s₀⟩ (documentName ⟨settings, lib, s₀⟩ o)
      (.operation o) =
        documentConstant ⟨settings, lib', s₁⟩ (documentName ⟨settings, lib', s₁⟩ o)
          (.operation o) := by
    simp only [documentConstant, Definition.spreads, hsent]
    rfl
  have bound : binding ⟨settings, lib, s₀⟩ o = binding ⟨settings, lib', s₁⟩ o := by
    funext h
    simp only [binding, document]
  rw [binding?, binding?, hook, bound]

lemma emittedAlike_of_transitive_eq {settings : Settings} {s : Strategy} {D₁ D₂ : List Document}
    {o : Operation} (kind : o.kind ≠ .subscription) (h₁ : .operation o ∈ D₁.flatten)
    (h₂ : .operation o ∈ D₂.flatten)
    (sent : (knownFragments settings D₁.flatten).transitive o.spreads =
      (knownFragments settings D₂.flatten).transitive o.spreads) :
    EmittedAlike ((compilerFor settings s D₁.flatten).module D₁.flatten) D₁
      ((compilerFor settings s D₂.flatten).module D₂.flatten) D₂ o := by
  have same : (compilerFor settings s D₁.flatten).binding? s o =
      (compilerFor settings s D₂.flatten).binding? s o := binding?_congr s rfl sent
  have bound := binding?_isSome (compilerFor settings s D₁.flatten) s o
  rw [decide_eq_true kind, Option.isSome_iff_exists] at bound
  obtain ⟨b, hb⟩ := bound
  exact ⟨b.text, fun t => ⟨emits_iff (mem_boundOperations h₁ kind) hb t,
    emits_iff (mem_boundOperations h₂ kind) (same ▸ hb) t⟩⟩

/-- Definitions of the names that are met, kept in their order name by name, decide what is sent. -/
lemma transitive_knownFragments_congr {settings : Settings} {d₁ d₂ : Document}
    {spreads : List String}
    (h : ∀ n, (knownFragments settings d₁).Mentions spreads n →
      fragmentsNamed d₁ n = fragmentsNamed d₂ n) :
    (knownFragments settings d₁).transitive spreads =
      (knownFragments settings d₂).transitive spreads := by
  have named {n : String} (hn : (knownFragments settings d₁).Mentions spreads n) :
      fragmentNamed? d₁ n = fragmentNamed? d₂ n := by
    rw [fragmentNamed?, fragmentNamed?, h n hn]
  refine FragmentLibrary.close_congr (P := (knownFragments settings d₁).Mentions spreads)
    (fun n hn => ?_) (fun n hn _ => ?_) (fun m hm known n hn => ?_) (fun n hn => .inl hn)
  · rw [FragmentLibrary.mem_names_knownFragments, FragmentLibrary.mem_names_knownFragments,
      ← fragmentNamed?_isSome, ← fragmentNamed?_isSome, named hn]
  · rw [FragmentLibrary.dependencies_knownFragments, FragmentLibrary.dependencies_knownFragments,
      named hn]
  · exact .inr ⟨m, hm.reaches known, hn⟩

/-- Where names are unique, rearranging the definitions changes no name's meaning. -/
lemma fragmentsNamed_eq_of_perm {d₁ d₂ : Document} (perm : d₁.Perm d₂)
    (unique : ((fragmentsOf d₁).map (·.name.text)).Nodup) (n : String) :
    fragmentsNamed d₁ n = fragmentsNamed d₂ n := by
  have hp : (fragmentsNamed d₁ n).Perm (fragmentsNamed d₂ n) :=
    (perm.filterMap _).filter _
  have hn : ((fragmentsNamed d₁ n).map (·.name.text)).Nodup :=
    unique.sublist (List.filter_sublist.map _)
  match h : fragmentsNamed d₁ n with
  | [] => exact (List.nil_perm.mp (h ▸ hp)).symm
  | [f] => exact List.singleton_perm.mp (h ▸ hp)
  | f :: g :: rest =>
    -- two definitions of one name cannot be
    have hf := (mem_fragmentsNamed.mp (h ▸ List.mem_cons_self : f ∈ fragmentsNamed d₁ n)).2
    have hg := (mem_fragmentsNamed.mp
      (h ▸ List.mem_cons_of_mem _ List.mem_cons_self : g ∈ fragmentsNamed d₁ n)).2
    rw [h] at hn
    simp [hf, hg] at hn

/-- The text emitted for an operation is local. It is the same in two modules made under the same
options if the operation reaches the same fragments with the same spreads in them; in particular
if the definitions of the names it meets are the same in both, whatever is added, deleted or moved
around them, and if uniquely named fragments and all other definitions are rearranged. -/
theorem bindings_local {options : Json} {D₁ D₂ : List Document} {m₁ m₂ : GeneratedModule}
    {o : Operation} (made₁ : generate options D₁ = .ok m₁) (made₂ : generate options D₂ = .ok m₂)
    (kind : o.kind ≠ .subscription) (h₁ : .operation o ∈ D₁.flatten)
    (h₂ : .operation o ∈ D₂.flatten) :
    ∃ settings, Decode.settings options = .accepted settings ∧
      let lib₁ := knownFragments settings D₁.flatten
      let lib₂ := knownFragments settings D₂.flatten
      ((∀ n, lib₁.Reaches o.spreads n ↔ lib₂.Reaches o.spreads n) →
        (∀ n, lib₁.Reaches o.spreads n → lib₁.dependencies n = lib₂.dependencies n) →
        EmittedAlike m₁ D₁ m₂ D₂ o) ∧
      ((∀ n, lib₁.Mentions o.spreads n →
          fragmentsNamed D₁.flatten n = fragmentsNamed D₂.flatten n) →
        EmittedAlike m₁ D₁ m₂ D₂ o) ∧
      (D₁.flatten.Perm D₂.flatten → ((fragmentsOf D₁.flatten).map (·.name.text)).Nodup →
        EmittedAlike m₁ D₁ m₂ D₂ o) := by
  obtain ⟨settings, s, hd, hs, -, rfl⟩ := generate_eq_ok_iff.mp made₁
  obtain ⟨settings', s', hd', hs', -, rfl⟩ := generate_eq_ok_iff.mp made₂
  rw [hd] at hd'
  cases hd'
  rw [hs] at hs'
  cases hs'
  refine ⟨settings, hd, fun reach same => ?_, fun same => ?_, fun perm unique => ?_⟩
  · exact emittedAlike_of_transitive_eq kind h₁ h₂ (FragmentLibrary.transitive_congr reach same)
  · exact emittedAlike_of_transitive_eq kind h₁ h₂ (transitive_knownFragments_congr same)
  · exact emittedAlike_of_transitive_eq kind h₁ h₂
      (transitive_knownFragments_congr fun n _ => fragmentsNamed_eq_of_perm perm unique n)

/-- A fragment that moves behind the operation that spreads it. -/
theorem bindings_local_moved :
    let f : Fragment := ⟨none, ⟨'F', [], rfl, rfl⟩, ⟨'T', [], rfl, rfl⟩, [], []⟩
    let o : Operation := .bare .query (some ⟨'A', [], rfl, rfl⟩) [.spread f.name []]
    ∃ m₁ m₂, generate .null [[.fragment f, .operation o]] = .ok m₁ ∧
      generate .null [[.operation o], [.fragment f]] = .ok m₂ ∧
      EmittedAlike m₁ [[.fragment f, .operation o]] m₂ [[.operation o], [.fragment f]] o := by
  intro f o
  refine ⟨_, _, rfl, rfl, ?_⟩
  obtain ⟨settings, -, -, -, moved⟩ := @bindings_local .null
    [[.fragment f, .operation o]] [[.operation o], [.fragment f]] _ _ o
    rfl rfl (by decide) (by simp) (by simp)
  exact moved (List.Perm.swap _ _ _) (by simp [fragmentsOf, Definition.fragment?])

end OperationHooks
