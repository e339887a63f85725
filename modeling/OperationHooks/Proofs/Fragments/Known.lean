import Mathlib.Data.List.Nodup
import Mathlib.Data.List.Perm.Basic
import Mathlib.Tactic.Common
import OperationHooks.Proofs.Compilation.Run
import OperationHooks.Proofs.Fragments.Order
import OperationHooks.Proofs.Fragments.Reach

/-!
# The fragments that settings and documents make known

A name that documents define means the last of its definitions, whether or not it is external as
well; the other known names are those of external fragments, which have no definition. Both the
spreads of a name and the constants of a module follow from that.
-/

namespace OperationHooks

/-- The fragments that a document defines under a name, in order. -/
def fragmentsNamed (document : Document) (n : String) : List Fragment :=
  (fragmentsOf document).filter (·.name.text == n)

/-- The fragment that a name means in a document: the last of that name. -/
def fragmentNamed? (document : Document) (n : String) : Option Fragment :=
  (fragmentsNamed document n).getLast?

section Documents

variable {document : Document} {n : String} {f : Fragment}

lemma fragmentNamed?_eq_find? (document : Document) (n : String) :
    fragmentNamed? document n = (fragmentsOf document).reverse.find? (·.name.text == n) :=
  List.getLast?_filter

lemma mem_fragmentsNamed : f ∈ fragmentsNamed document n ↔
    f ∈ fragmentsOf document ∧ f.name.text = n := by
  simp [fragmentsNamed, List.mem_filter]

lemma mem_of_fragmentNamed? (h : fragmentNamed? document n = some f) :
    f ∈ fragmentsOf document ∧ f.name.text = n :=
  mem_fragmentsNamed.mp (List.mem_of_getLast? h)

lemma fragmentNamed?_isSome :
    (fragmentNamed? document n).isSome ↔ ∃ f ∈ fragmentsOf document, f.name.text = n := by
  rw [fragmentNamed?, List.getLast?_isSome]
  constructor
  · intro h
    obtain ⟨f, hf⟩ := List.exists_mem_of_ne_nil _ h
    exact ⟨f, mem_fragmentsNamed.mp hf⟩
  · rintro ⟨f, hf⟩
    exact List.ne_nil_of_mem (mem_fragmentsNamed.mpr hf)

end Documents

/-! ### Looking up -/

namespace FragmentLibrary

variable {settings : Settings} {document : Document} {n : String}

lemma find?_knownFragments (settings : Settings) (document : Document) (n : String) :
    (knownFragments settings document).find? n =
      ((fragmentNamed? document n).map .ofFragment).or
        ((settings.externalFragments.reverse.find? (·.name == n)).map
          fun f => ⟨f.name, f.onType, none, true⟩) := by
  rw [fragmentNamed?_eq_find?, find?, knownFragments, List.reverse_append, List.find?_append,
    ← List.map_reverse, ← List.map_reverse, List.find?_map, List.find?_map]
  rfl

/-- What a name spreads is what its definition spreads. -/
lemma dependencies_knownFragments (settings : Settings) (document : Document) (n : String) :
    (knownFragments settings document).dependencies n =
      ((fragmentNamed? document n).map Fragment.spreads).getD [] := by
  have external : settings.externalFragments.reverse.find? (((fun f : LoadedFragment =>
      f.name == n && f.definition?.isSome)) ∘ fun f => ⟨f.name, f.onType, none, true⟩) = none := by
    simp
  have defined : ((fun f : LoadedFragment => f.name == n && f.definition?.isSome) ∘ .ofFragment) =
      fun f : Fragment => f.name.text == n := by
    funext f
    simp [LoadedFragment.ofFragment]
  rw [fragmentNamed?_eq_find?, dependencies, knownFragments, List.reverse_append,
    List.find?_append, ← List.map_reverse, ← List.map_reverse, List.find?_map, List.find?_map,
    external, defined]
  cases (fragmentsOf document).reverse.find? (·.name.text == n) with
  | none => rfl
  | some f => rfl

lemma mem_names_knownFragments : n ∈ (knownFragments settings document).names ↔
    n ∈ settings.externalFragments.map (·.name) ∨ ∃ f ∈ fragmentsOf document, f.name.text = n := by
  simp [names, knownFragments, LoadedFragment.ofFragment]

/-- The definitions to emit constants for are what the names mean, in the order of the names. -/
lemma definitionsInOrder_knownFragments (settings : Settings) (document : Document) :
    (knownFragments settings document).definitionsInOrder =
      ((knownFragments settings document).dependencyOrder.filterMap
        (fragmentNamed? document)).map .ofFragment := by
  rw [definitionsInOrder, ← List.filterMap_eq_filter, List.filterMap_filterMap,
    List.map_filterMap]
  congr 1
  funext n
  rw [find?_knownFragments]
  cases fragmentNamed? document n with
  | some f => simp [LoadedFragment.ofFragment]
  | none => cases settings.externalFragments.reverse.find? (·.name == n) <;> simp

end FragmentLibrary

/-- The fragments that constants are emitted for, in their order. -/
def emittedFragments (settings : Settings) (document : Document) : List Fragment :=
  (knownFragments settings document).dependencyOrder.filterMap (fragmentNamed? document)

lemma mem_emittedFragments {settings : Settings} {document : Document} {f : Fragment} :
    f ∈ emittedFragments settings document ↔ fragmentNamed? document f.name.text = some f := by
  rw [emittedFragments, List.mem_filterMap]
  constructor
  · rintro ⟨n, -, hn⟩
    rw [(mem_of_fragmentNamed? hn).2]
    exact hn
  · intro hf
    refine ⟨f.name.text, ?_, hf⟩
    exact FragmentLibrary.mem_dependencyOrder.mpr
      (FragmentLibrary.mem_names_knownFragments.mpr (.inr ⟨f, (mem_of_fragmentNamed? hf).1, rfl⟩))

lemma nodup_emittedFragments (settings : Settings) (document : Document) :
    (emittedFragments settings document).Nodup := by
  refine (FragmentLibrary.nodup_dependencyOrder _).filterMap fun n n' f hn hn' => ?_
  rw [← (mem_of_fragmentNamed? hn).2, ← (mem_of_fragmentNamed? hn').2]

/-- Where the names of fragments are unique, each has its constant. -/
lemma perm_emittedFragments (settings : Settings) {document : Document}
    (unique : ((fragmentsOf document).map (·.name.text)).Nodup) :
    (emittedFragments settings document).Perm (fragmentsOf document) := by
  have emitted := nodup_emittedFragments settings document
  refine (List.perm_ext_iff_of_nodup emitted unique.of_map).mpr fun f => ?_
  rw [mem_emittedFragments]
  constructor
  · intro hf
    exact (mem_of_fragmentNamed? hf).1
  · intro hf
    obtain ⟨g, hg⟩ := Option.isSome_iff_exists.mp
      (fragmentNamed?_isSome.mpr ⟨f, hf, rfl⟩)
    obtain ⟨hg', same⟩ := mem_of_fragmentNamed? hg
    rwa [List.inj_on_of_nodup_map unique hf hg' same.symm] at hg ⊢

/-- The constant of a fragment holds the text of its definition. -/
def Compiler.fragmentDocument (c : Compiler) (f : Fragment) : DocumentConstant :=
  ⟨c.fragmentConstant f.name.text, f.text, []⟩

@[simp] lemma Compiler.name_fragmentDocument (c : Compiler) (f : Fragment) :
    (c.fragmentDocument f).name = c.fragmentConstant f.name.text := rfl

/-- There is one constant for each name that the documents define. -/
lemma fragmentConstants_compilerFor (settings : Settings) (s : Strategy) (document : Document) :
    (compilerFor settings s document).fragmentConstants =
      (emittedFragments settings document).map
        (compilerFor settings s document).fragmentDocument := by
  rw [Compiler.fragmentConstants, show (compilerFor settings s document).library =
    knownFragments settings document from rfl, FragmentLibrary.definitionsInOrder_knownFragments,
    List.filterMap_map]
  exact congrFun List.filterMap_eq_map _

end OperationHooks
