import OperationHooks.Proofs.Compilation.Imports
import OperationHooks.Proofs.ExportedNames
import OperationHooks.Proofs.Naming.Words

/-!
# Hooks with the name of an imported hook

A hook has the name of an imported one where the conversion leaves nothing of the name of its
operation, or, without suffixes, where it leaves the word of a kind of operation that occurs. Both
happen to named operations, of which nothing is reported.
-/

namespace OperationHooks

open Compiler

/-- A name in which the conversion finds nothing but a word: the word in small letters, with a
capital or in capitals, and underscores around it. -/
def SpellsWord (name word : String) : Prop :=
  ∃ x ∈ Naming.spellings word.toList, Naming.Padded x name.toList

/-- Whether it is reported that an anonymous operation has a hook that may clash. -/
def Reported (c : Compiler) (m : GeneratedModule) (o : Operation) : Prop :=
  ⟨operationName o, .anonymous o.kind (c.summarize o).hookName⟩ ∈ m.diagnostics

/-! ### Names of hooks -/

lemma pascal_operationName_eq_iff (o : Operation) {word converted : String}
    (small : word.toList.all Char.isLower = true)
    (conversion : capitalize word.toList = converted.toList) :
    convertedName o = converted ↔ SpellsWord (operationName o) word := by
  have small' : ∀ c ∈ word.toList, c.isLower = true := List.all_eq_true.mp small
  rw [SpellsWord, ← Naming.pascalChars_eq_capitalize_iff small' (isNameContinue_operationName o),
    conversion, convertedName, Naming.pascal]
  constructor
  · intro h
    rw [← h, String.toList_ofList]
  · intro h
    rw [h, String.ofList_toList]

lemma convertedName_eq_word_iff (o : Operation) (k : OperationKind) :
    convertedName o = k.word ↔ SpellsWord (operationName o) k.keyword := by
  cases k <;> exact pascal_operationName_eq_iff o (by decide) (by decide)

lemma convertedName_eq_empty_iff (o : Operation) :
    convertedName o = "" ↔ SpellsWord (operationName o) "" :=
  pascal_operationName_eq_iff o (by decide) (by decide)

lemma use_mem_identifiers_iff {k : OperationKind} (hk : k ≠ .subscription) {name : String} :
    "use" ++ name ∈ k.identifiers ↔ name = k.word := by
  have capital {options : String} (h : options.toList.head? = some 'U') :
      "use" ++ name ≠ options := by
    rintro rfl
    simp [String.toList_append] at h
  have query : "useQuery" = "use" ++ "Query" := by decide
  have mutation : "useMutation" = "use" ++ "Mutation" := by decide
  cases k with
  | query =>
    rw [OperationKind.identifiers, List.mem_pair, or_iff_left (capital rfl), query,
      String.append_right_inj]
    rfl
  | mutation =>
    rw [OperationKind.identifiers, List.mem_pair, or_iff_left (capital rfl), mutation,
      String.append_right_inj]
    rfl
  | subscription => exact absurd rfl hk

lemma append_word_eq_word_iff {k k' : OperationKind} (hk : k ≠ .subscription)
    (hk' : k' ≠ .subscription) {name : String} :
    name ++ k.word = k'.word ↔ k = k' ∧ name = "" := by
  have inj := @append_word_inj k k' hk hk' name ""
  rwa [String.empty_append] at inj

/-- When the hook of an operation has the name of an imported one. -/
lemma hookName_mem_importedIdentifiers_iff {settings : Settings} {s : Strategy}
    {documents : List Document} {o : Operation} (ho : o ∈ boundOperations documents) :
    ((compilerFor settings s documents.flatten).summarize o).hookName ∈
        importedIdentifiers documents ↔
      if settings.omitOperationSuffix then
        ∃ o' ∈ boundOperations documents, SpellsWord (operationName o) o'.kind.keyword
      else SpellsWord (operationName o) "" := by
  have kind := kind_of_mem_boundOperations ho
  rw [mem_importedIdentifiers, hookName_summarize, kindSuffix]
  cases suffix : settings.omitOperationSuffix with
  | true =>
    simp only [compilerFor, suffix, if_true, String.append_empty]
    apply exists_congr
    intro o'
    apply and_congr_right
    intro ho'
    rw [use_mem_identifiers_iff (kind_of_mem_boundOperations ho'), convertedName_eq_word_iff]
  | false =>
    simp only [compilerFor, suffix, Bool.false_eq_true, if_false]
    rw [← convertedName_eq_empty_iff]
    constructor
    · rintro ⟨o', ho', h⟩
      have kind' := kind_of_mem_boundOperations ho'
      rw [use_mem_identifiers_iff kind', append_word_eq_word_iff kind kind'] at h
      exact h.2
    · intro h
      refine ⟨o, ho, ?_⟩
      rw [use_mem_identifiers_iff kind, append_word_eq_word_iff kind kind]
      exact ⟨rfl, h⟩

/-! ### Reports -/

lemma name?_of_concern?_eq {c : Compiler} {o : Operation} {k : OperationKind} {hook : String}
    (h : c.concern? o = some (.anonymous k hook)) : o.name? = none := by
  rw [concern?] at h
  split at h
  · cases h
  · split at h
    · next anonymous => exact Option.isNone_iff_eq_none.mp anonymous
    · cases h

lemma operationName_eq_empty_iff {o : Operation} : operationName o = "" ↔ o.name? = none := by
  cases h : o.name? with
  | none => simp [operationName, h]
  | some n =>
    have nonempty : n.text ≠ "" := by
      intro hn
      exact n.chars_ne_nil (by rw [← Name.toList_text, hn, String.toList_empty])
    simpa [operationName, h] using nonempty

/-- It is reported of anonymous operations and of no others. -/
lemma reported_iff {settings : Settings} {s : Strategy} {documents : List Document} {o : Operation}
    (ho : o ∈ boundOperations documents) :
    Reported (compilerFor settings s documents.flatten)
      ((compilerFor settings s documents.flatten).module documents.flatten) o ↔ o.name? = none := by
  rw [Reported, diagnostics_module, List.mem_filterMap]
  constructor
  · rintro ⟨o', -, h⟩
    obtain ⟨concern, hc, same⟩ := Option.map_eq_some_iff.mp h
    obtain ⟨names, rfl⟩ := Diagnostic.mk.inj same
    rw [← operationName_eq_empty_iff, ← names, operationName_eq_empty_iff]
    exact name?_of_concern?_eq hc
  · intro anonymous
    refine ⟨o, (List.mem_filter.mp ho).1, ?_⟩
    have kind := kind_of_mem_boundOperations ho
    cases hk : o.kind with
    | query => simp [diagnostic?, concern?, hk, anonymous]
    | mutation => simp [diagnostic?, concern?, hk, anonymous]
    | subscription => exact absurd hk kind

/-- The hook of an operation has the name of an imported hook exactly where the name of the
operation spells nothing, or, without suffixes, where it spells the word of a kind that occurs; and
what is reported is exactly that an operation is anonymous. -/
theorem hook_shadows_iff {options : Json} {documents : List Document} {m : GeneratedModule}
    (made : generate options documents = .ok m) :
    ∃ settings s, Decode.settings options = .accepted settings ∧
      Strategy.ofFetcher settings.fetcher = .ok s ∧
      m.prepend = (if boundOperations documents = [] then [] else s.imports)
        ++ (hookImportLine? settings documents).toList ++ s.helper?.toList ∧
      List.Forall₂ (fun o b =>
        TypeScript.exportedName? b.hook.text = some b.hook.operation.hookName ∧
        (b.hook.operation.hookName ∈ importedIdentifiers documents ↔
          if settings.omitOperationSuffix then
            ∃ o' ∈ boundOperations documents, SpellsWord (operationName o) o'.kind.keyword
          else SpellsWord (operationName o) "") ∧
        (Reported (compilerFor settings s documents.flatten) m o ↔ o.name? = none))
        (boundOperations documents) m.bindings := by
  obtain ⟨settings, s, hd, hs, -, rfl⟩ := generate_eq_ok_iff.mp made
  refine ⟨settings, s, hd, hs, prepend_module settings s documents, ?_⟩
  have image := bindings_image settings s documents.flatten
  have placed : ∀ o ∈ boundOperations documents, o ∈ boundOperations documents := fun _ ho => ho
  refine ((List.forall₂_and_left _ _).mpr ⟨placed, image⟩).imp ?_
  rintro o b ⟨ho, hb⟩
  have op := (binding?_eq_some hb).2.1
  refine ⟨?_, ?_, reported_iff ho⟩
  · rw [exportedName?_hook hb, op]
  · rw [op]
    exact hookName_mem_importedIdentifiers_iff ho

/-- A query whose name is all underscores and an anonymous one both have a hook with the name of
the imported one; it is reported of the latter. -/
theorem hook_shadows_iff_underscores :
    let o : Operation := .bare .query (some ⟨'_', ['_'], rfl, rfl⟩) []
    let o' : Operation := .bare .query none []
    let c := compilerFor .default .browser [.operation o, .operation o']
    ∃ m b b', generate .null [[.operation o, .operation o']] = .ok m ∧ m.bindings = [b, b'] ∧
      b.hook.operation.hookName ∈ importedIdentifiers [[.operation o, .operation o']] ∧
      b'.hook.operation.hookName ∈ importedIdentifiers [[.operation o, .operation o']] ∧
      ¬Reported c m o ∧ Reported c m o' := by
  intro o o' c
  obtain ⟨m, made⟩ : ∃ m, generate .null [[.operation o, .operation o']] = .ok m := ⟨_, rfl⟩
  obtain ⟨settings, s, hd, hs, -, shadows⟩ := hook_shadows_iff made
  cases hd
  cases hs
  -- both are bound, since none is a subscription
  change List.Forall₂ _ [o, o'] _ at shadows
  generalize bound : m.bindings = bs at shadows
  cases shadows with
  | cons first rest =>
    cases rest with
    | cons second rest =>
      cases rest
      refine ⟨m, _, _, made, bound, first.2.1.mpr ?_, second.2.1.mpr ?_, ?_, ?_⟩
      · have underscores : (operationName o).toList = ['_', '_'] := by decide
        exact ⟨[], by decide, underscores ▸ Naming.Padded.self.before.before⟩
      · exact ⟨[], by decide, Naming.Padded.self⟩
      · exact mt first.2.2.mp (by decide)
      · exact second.2.2.mpr rfl

/-- The hook of a named query has the name of the imported hook, and nothing is reported. -/
theorem shadowing_not_reported :
    let o : Operation := .bare .query (some ⟨'_', [], rfl, rfl⟩)
      [.leaf ⟨none, ⟨'a', [], rfl, rfl⟩, [], []⟩]
    ∃ m b, generate .null [[.operation o]] = .ok m ∧ m.bindings = [b] ∧
      TypeScript.exportedName? b.hook.text = some "useQuery" ∧
      m.prepend.head? = some "import \x7b useQuery, UseQueryOptions \x7d from 'react-query';" ∧
      m.diagnostics = [] := by
  intro o
  let documents : List Document := [[.operation o]]
  have made : generate .null documents =
    .ok ((compilerFor .default .browser documents.flatten).module documents.flatten) := rfl
  have image := bindings_image .default .browser documents.flatten
  have prepend := prepend_module .default .browser documents
  have diagnostics := diagnostics_module .default .browser documents.flatten
  have name : ((compilerFor .default .browser documents.flatten).summarize o).hookName =
      "useQuery" := by
    have underscore : (operationName o).toList = ['_'] := by decide
    have nothing : convertedName o = "" := by
      apply (convertedName_eq_empty_iff o).mpr
      exact ⟨[], by decide, underscore ▸ Naming.Padded.self.before⟩
    rw [hookName_summarize, nothing]
    decide
  change List.Forall₂ _ [o] _ at image
  generalize (compilerFor .default .browser documents.flatten).module documents.flatten = m at *
  generalize bound : m.bindings = bs at image
  cases image with
  | cons binding rest =>
    cases rest
    refine ⟨m, _, made, bound, ?_, ?_, diagnostics⟩
    · rw [exportedName?_hook binding, name]
    · rw [prepend]
      rfl

end OperationHooks
