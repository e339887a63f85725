import Mathlib.Data.List.Nodup
import Mathlib.Data.List.Perm.Basic
import OperationHooks.Proofs.Compilation.Locality
import OperationHooks.Proofs.Statements

/-!
# The names that a module exports

A module exports one name for each fragment and two for each query and each mutation: the constant
of its document and its hook. With the usual suffixes a name of one family is never one of another,
so names collide exactly where the conversion takes two operations, or two fragments, to one name.
-/

namespace OperationHooks

open Compiler TypeScript

/-- The names that the statements of a module export, from top to bottom. -/
def GeneratedModule.exportedNames (m : GeneratedModule) : List String :=
  m.statements.filterMap exportedName?

namespace GeneratedModule

variable (m : GeneratedModule)

/-- The names of the constants for fragments. -/
def fragmentNames : List String := m.fragments.map (·.name)

/-- The names of the constants for the documents of operations. -/
def documentNames : List String := m.bindings.map (·.document.name)

/-- The names of the hooks. -/
def hookNames : List String := m.bindings.map (·.hook.operation.hookName)

/-- The exported names are those of three families, and no name is in two of them. -/
structure FamiliesApart : Prop where
  all : m.exportedNames.Perm (m.fragmentNames ++ (m.documentNames ++ m.hookNames))
  documents : m.fragmentNames.Disjoint m.documentNames
  hooks : m.fragmentNames.Disjoint m.hookNames
  operations : m.documentNames.Disjoint m.hookNames

end GeneratedModule

/-- The names of constants have the usual suffixes. -/
structure Settings.UsualSuffixes (s : Settings) : Prop where
  document : s.documentSuffix = Settings.default.documentSuffix
  fragment : s.fragmentSuffix = Settings.default.fragmentSuffix

/-- The name of an operation as it stands in generated names. -/
def convertedName (o : Operation) : String := Naming.pascal (operationName o)

/-- The name of a fragment as it stands in generated names. -/
def convertedFragment (f : Fragment) : String := Naming.pascal f.name.text

/-! ### Which names there are -/

lemma isNameChar_constant {name suffix : String}
    (hn : ∀ c ∈ name.toList, isNameContinue c = true) (hs : suffix.toList.all isNameChar = true) :
    ∀ c ∈ (Naming.affixed "" name suffix).toList, isNameChar c = true := by
  intro c hc
  simp only [Naming.affixed, String.toList_append, List.mem_append] at hc
  rcases hc with (hc | hc) | hc
  · simp at hc
  · exact isNameChar_pascal hn c hc
  · exact List.all_eq_true.mp hs c hc

/-- The name for one fragment. -/
lemma exportedName?_fragment {c : Compiler} (usual : c.settings.UsualSuffixes) (f : Fragment) :
    exportedName? (c.fragmentDocument f).text = some (c.fragmentConstant f.name.text) := by
  refine exportedName?_constant (k := c.fragmentDocument f) (isNameChar_constant ?_ ?_)
  · rw [Name.toList_text]
    exact f.name.isNameContinue_chars
  · rw [usual.fragment]
    decide

lemma exportedName?_hook {c : Compiler} {s : Strategy} {o : Operation} {b : Binding}
    (h : c.binding? s o = some b) : exportedName? b.hook.text = some (c.summarize o).hookName := by
  have ho := (binding?_eq_some h).2.1
  have name : ∀ d ∈ b.hook.operation.hookName.toList, isNameChar d = true := by
    rw [ho]
    exact isNameChar_hookName c o
  rw [(read_hook name).1, ho]

/-- The names for one operation. -/
lemma exportedNames_binding {c : Compiler} {s : Strategy} {o : Operation} {b : Binding}
    (usual : c.settings.UsualSuffixes) (h : c.binding? s o = some b) :
    b.statements.filterMap exportedName? = [c.documentName o, (c.summarize o).hookName] := by
  have hd := (binding?_eq_some h).1
  have document : exportedName? b.document.text = some (c.documentName o) := by
    rw [exportedName?_constant] <;> rw [hd]
    · rfl
    · refine isNameChar_constant (isNameContinue_operationName o) ?_
      rw [usual.document]
      decide
  have hook : exportedName? b.hook.text = some (c.summarize o).hookName := exportedName?_hook h
  have key : exportedName? (Hook.keyAccessor b.hook.operation) = none :=
    (read_keyAccessor b.hook.operation).1
  rw [Binding.statements, List.filterMap_append]
  split <;> simp [document, hook, key]

lemma exportedNames_fragments {c : Compiler} (usual : c.settings.UsualSuffixes)
    (fs : List Fragment) :
    ((fs.map c.fragmentDocument).map DocumentConstant.text).filterMap exportedName? =
      fs.map fun f => c.fragmentConstant f.name.text := by
  induction fs with
  | nil => rfl
  | cons f fs ih =>
    rw [List.map_cons, List.map_cons, List.filterMap_cons, exportedName?_fragment usual f]
    exact congrArg (c.fragmentConstant f.name.text :: ·) ih

lemma exportedNames_bindings {c : Compiler} {s : Strategy} (usual : c.settings.UsualSuffixes)
    {ops : List Operation} {bs : List Binding}
    (image : List.Forall₂ (fun o b => c.binding? s o = some b) ops bs) :
    (bs.flatMap Binding.statements).filterMap exportedName? =
      ops.flatMap fun o => [c.documentName o, (c.summarize o).hookName] := by
  induction image with
  | nil => rfl
  | cons h _ ih =>
    rw [List.flatMap_cons, List.filterMap_append, ih, exportedNames_binding usual h,
      List.flatMap_cons]

/-- The names that a module exports: those of its fragments and those of its operations. -/
lemma exportedNames_module {settings : Settings} (s : Strategy) (documents : List Document)
    (usual : settings.UsualSuffixes) :
    ((compilerFor settings s documents.flatten).module documents.flatten).exportedNames =
      (emittedFragments settings documents.flatten).map (fun f =>
          (compilerFor settings s documents.flatten).fragmentConstant f.name.text)
        ++ (boundOperations documents).flatMap fun o =>
          [(compilerFor settings s documents.flatten).documentName o,
            ((compilerFor settings s documents.flatten).summarize o).hookName] := by
  rw [GeneratedModule.exportedNames, GeneratedModule.statements, List.filterMap_append,
    exportedNames_bindings usual (bindings_image settings s documents.flatten), fragments_module,
    fragmentConstants_compilerFor, exportedNames_fragments usual]
  rfl

/-! ### Which of them collide -/

/-- A hook and a constant differ in their first characters. -/
lemma hookName_ne_constant (c : Compiler) (o : Operation) {name : String}
    (hn : ∀ x ∈ name.toList, isNameContinue x = true) {suffix : String}
    (hs : ∀ x ∈ suffix.toList.head?, x.isLower = false) :
    (c.summarize o).hookName ≠ Naming.affixed "" name suffix := by
  intro h
  have hu : (Naming.affixed "" name suffix).toList.head? = some 'u' := by
    rw [← h, OperationSummary.hookName, String.toList_append]
    rfl
  rw [Naming.affixed, String.toList_append, String.toList_append, Naming.pascal,
    String.toList_ofList] at hu
  cases hp : Naming.pascalChars name.toList with
  | nil =>
    rw [hp] at hu
    exact absurd (hs 'u' hu) (by decide)
  | cons d ds =>
    rw [hp] at hu
    have lower := Naming.not_isLower_head?_pascalChars hn d (by rw [hp]; rfl)
    simp only [String.toList_ofList, List.nil_append, List.cons_append, List.head?_cons,
      Option.some.injEq] at hu
    rw [hu] at lower
    exact absurd lower (by decide)

/-- Two texts that end in different characters differ. -/
lemma append_ne_of_getLast? {a b x y : String} {c d : Char}
    (hx : x.toList.getLast? = some c) (hy : y.toList.getLast? = some d) (hne : c ≠ d) :
    a ++ x ≠ b ++ y := by
  intro h
  have h := congrArg (fun t : String => t.toList.getLast?) h
  simp only [String.toList_append, List.getLast?_append, hx, hy] at h
  simp at h
  exact hne h

/-- The words for the kinds of queries and mutations end differently. -/
lemma append_word_inj {k k' : OperationKind} (hk : k ≠ .subscription) (hk' : k' ≠ .subscription)
    {a b : String} : a ++ k.word = b ++ k'.word ↔ k = k' ∧ a = b := by
  by_cases same : k = k'
  · subst same
    simp
  · have apart : a ++ k.word ≠ b ++ k'.word := by
      cases k <;> cases k'
      · exact absurd rfl same
      · exact append_ne_of_getLast? (c := 'y') (d := 'n') rfl rfl (by decide)
      · exact absurd rfl hk'
      · exact append_ne_of_getLast? (c := 'n') (d := 'y') rfl rfl (by decide)
      · exact absurd rfl same
      · exact absurd rfl hk'
      · exact absurd rfl hk
      · exact absurd rfl hk
      · exact absurd rfl same
    simp [same, apart]

lemma hookName_summarize (c : Compiler) (o : Operation) :
    (c.summarize o).hookName = "use" ++ (convertedName o ++ c.kindSuffix o.kind) := by
  simp [OperationSummary.hookName, summarize, Naming.affixed, convertedName]

/-- Hooks of operations with different converted names have different names. -/
lemma convertedName_of_hookName {c : Compiler} {o o' : Operation} (ho : o.kind ≠ .subscription)
    (ho' : o'.kind ≠ .subscription)
    (h : (c.summarize o).hookName = (c.summarize o').hookName) :
    convertedName o = convertedName o' := by
  rw [hookName_summarize, hookName_summarize, String.append_right_inj, kindSuffix,
    kindSuffix] at h
  split at h
  · simpa using h
  · exact ((append_word_inj ho ho').mp h).2

/-- The suffix of a family makes no two names alike. -/
lemma nodup_map_affixed {α : Type} (name : α → String) (suffix : String) (xs : List α) :
    (xs.map fun x => Naming.affixed "" (name x) suffix).Nodup ↔
      (xs.map fun x => Naming.pascal (name x)).Nodup := by
  have inj : Function.Injective fun n : String => "" ++ n ++ suffix := by
    intro a b h
    simpa using h
  have names : (xs.map fun x => Naming.affixed "" (name x) suffix) =
      (xs.map fun x => Naming.pascal (name x)).map fun n => "" ++ n ++ suffix := by
    rw [List.map_map]
    rfl
  rw [names, List.nodup_map_iff inj]

lemma perm_pairs {α : Type} (f g : α → String) (xs : List α) :
    (xs.map f ++ xs.map g).Perm (xs.flatMap fun x => [f x, g x]) := by
  rw [List.map_eq_flatMap (f := g)]
  exact List.map_append_flatMap_perm xs f fun x => [g x]

lemma disjoint_map_of_ne {α β : Type} {f : α → String} {g : β → String} (h : ∀ x y, f x ≠ g y)
    (xs : List α) (ys : List β) : (xs.map f).Disjoint (ys.map g) := by
  rw [List.disjoint_iff_ne]
  intro a ha b hb
  obtain ⟨x, -, rfl⟩ := List.mem_map.mp ha
  obtain ⟨y, -, rfl⟩ := List.mem_map.mp hb
  exact h x y

lemma nodup_pairs {α : Type} {f g : α → String} {xs : List α}
    (hg : (xs.map f).Nodup → (xs.map g).Nodup) (hfg : ∀ x y, f x ≠ g y) :
    (xs.flatMap fun x => [f x, g x]).Nodup ↔ (xs.map f).Nodup := by
  rw [← (perm_pairs f g xs).nodup_iff, List.nodup_append']
  constructor
  · intro h
    exact h.1
  · intro h
    exact ⟨h, hg h, disjoint_map_of_ne hfg xs xs⟩

/-- No hook has the name of a constant for a document. -/
lemma documentName_ne_hookName {c : Compiler} (usual : c.settings.UsualSuffixes)
    (o o' : Operation) : c.documentName o ≠ (c.summarize o').hookName := by
  intro h
  refine hookName_ne_constant c o' (isNameContinue_operationName o) ?_ h.symm
  rw [usual.document]
  rintro _ ⟨⟩
  decide

/-- The names for operations are distinct if the converted names are. -/
lemma nodup_operationNames {c : Compiler} (usual : c.settings.UsualSuffixes) {ops : List Operation}
    (kinds : ∀ o ∈ ops, o.kind ≠ .subscription) :
    (ops.flatMap fun o => [c.documentName o, (c.summarize o).hookName]).Nodup ↔
      (ops.map convertedName).Nodup := by
  rw [nodup_pairs]
  · exact nodup_map_affixed operationName _ _
  · intro h
    have h := (nodup_map_affixed operationName _ _).mp h
    rw [List.Nodup, List.pairwise_map] at h ⊢
    refine h.imp_of_mem fun ho ho' hne heq => hne ?_
    exact convertedName_of_hookName (kinds _ ho) (kinds _ ho') heq
  · exact documentName_ne_hookName usual

/-- No fragment has the name of an operation's constant or hook. -/
lemma fragmentConstant_ne {c : Compiler} (usual : c.settings.UsualSuffixes) (f : Fragment)
    (o : Operation) :
    c.fragmentConstant f.name.text ≠ c.documentName o ∧
      c.fragmentConstant f.name.text ≠ (c.summarize o).hookName := by
  constructor
  · rw [fragmentConstant, documentName, usual.fragment, usual.document]
    exact append_ne_of_getLast? (c := 'c') (d := 't') rfl rfl (by decide)
  · intro h
    refine hookName_ne_constant c o ?_ ?_ h.symm
    · rw [Name.toList_text]
      exact f.name.isNameContinue_chars
    · rw [usual.fragment]
      rintro _ ⟨⟩
      decide

lemma names_bindings {c : Compiler} {s : Strategy} {ops : List Operation} {bs : List Binding}
    (image : List.Forall₂ (fun o b => c.binding? s o = some b) ops bs) :
    bs.map (·.document.name) = ops.map c.documentName ∧
      bs.map (·.hook.operation.hookName) = ops.map fun o => (c.summarize o).hookName := by
  induction image with
  | nil => exact ⟨rfl, rfl⟩
  | cons h _ ih =>
    obtain ⟨document, operation, -⟩ := binding?_eq_some h
    rw [List.map_cons, List.map_cons, List.map_cons, List.map_cons, ih.1, ih.2, document, operation]
    exact ⟨rfl, rfl⟩

/-- With the usual suffixes a name of one family is never one of another. -/
lemma familiesApart_module {settings : Settings} (s : Strategy) (documents : List Document)
    (usual : settings.UsualSuffixes) :
    ((compilerFor settings s documents.flatten).module documents.flatten).FamiliesApart := by
  let c := compilerFor settings s documents.flatten
  have suffixes : c.settings.UsualSuffixes := usual
  have fragments : (c.module documents.flatten).fragmentNames =
      (emittedFragments settings documents.flatten).map fun f => c.fragmentConstant f.name.text := by
    rw [GeneratedModule.fragmentNames, fragments_module, fragmentConstants_compilerFor, List.map_map]
    rfl
  obtain ⟨constants, hooks⟩ := names_bindings (bindings_image settings s documents.flatten)
  have constants : (c.module documents.flatten).documentNames =
      (boundOperations documents).map c.documentName := constants
  have hooks : (c.module documents.flatten).hookNames =
      (boundOperations documents).map fun o => (c.summarize o).hookName := hooks
  constructor
  · rw [exportedNames_module s documents usual, fragments, constants, hooks]
    exact .append_left _ (perm_pairs _ _ _).symm
  · rw [fragments, constants]
    exact disjoint_map_of_ne (fun f o => (fragmentConstant_ne suffixes f o).1) _ _
  · rw [fragments, hooks]
    exact disjoint_map_of_ne (fun f o => (fragmentConstant_ne suffixes f o).2) _ _
  · rw [constants, hooks]
    exact disjoint_map_of_ne (documentName_ne_hookName suffixes) _ _

/-- With the usual suffixes the exported names are distinct exactly if the converted names of the
queries and mutations are, and those of the fragments. Distinct or not, the names of the constants
for fragments, those of the constants for documents, and those of the hooks stay apart. -/
theorem exportedNames_nodup_iff {options : Json} {documents : List Document} {settings : Settings}
    {m : GeneratedModule} (accepted : Decode.settings options = .accepted settings)
    (usual : settings.UsualSuffixes) (made : generate options documents = .ok m)
    (unique : ((fragmentsOf documents.flatten).map (·.name.text)).Nodup) :
    m.content = "\n".intercalate ((if m.fragments = [] then [""] else []) ++ m.statements) ∧
      (m.exportedNames.Nodup ↔ ((boundOperations documents).map convertedName).Nodup ∧
        ((fragmentsOf documents.flatten).map convertedFragment).Nodup) ∧
      m.FamiliesApart := by
  obtain ⟨settings', s, hd, -, -, rfl⟩ := generate_eq_ok_iff.mp made
  rw [accepted] at hd
  cases hd
  have kinds : ∀ o ∈ boundOperations documents, o.kind ≠ .subscription := by
    intro o ho
    simpa using (List.mem_filter.mp ho).2
  have operations :=
    nodup_operationNames (c := compilerFor settings s documents.flatten) usual kinds
  have fragments : ((emittedFragments settings documents.flatten).map fun f =>
      (compilerFor settings s documents.flatten).fragmentConstant f.name.text).Nodup ↔
        ((fragmentsOf documents.flatten).map convertedFragment).Nodup := by
    rw [((perm_emittedFragments settings unique).map _).nodup_iff]
    exact nodup_map_affixed (fun f : Fragment => f.name.text) _ _
  refine ⟨GeneratedModule.content_eq _, ?_, familiesApart_module s documents usual⟩
  rw [exportedNames_module s documents usual, List.nodup_append, fragments, operations]
  constructor
  · intro h
    exact ⟨h.2.1, h.1⟩
  · intro h
    refine ⟨h.2, h.1, fun a ha b hb => ?_⟩
    obtain ⟨f, -, rfl⟩ := List.mem_map.mp ha
    obtain ⟨o, -, hb⟩ := List.mem_flatMap.mp hb
    have apart := fragmentConstant_ne (c := compilerFor settings s documents.flatten) usual f o
    rcases List.mem_pair.mp hb with rfl | rfl
    · exact apart.1
    · exact apart.2

/-- A query and a fragment with the same converted name, beside a mutation with another one: their
exported names do not collide. -/
theorem exportedNames_nodup_iff_mixed :
    let q : Operation := .bare .query (some ⟨'a', [], rfl, rfl⟩) []
    let u : Operation := .bare .mutation (some ⟨'b', [], rfl, rfl⟩) []
    let f : Fragment := ⟨none, ⟨'A', [], rfl, rfl⟩, ⟨'T', [], rfl, rfl⟩, [], []⟩
    ∃ m, generate .null [[.operation q, .fragment f], [.operation u]] = .ok m ∧
      m.exportedNames.Nodup ∧ m.FamiliesApart := by
  intro q u f
  obtain ⟨-, distinct, apart⟩ := @exportedNames_nodup_iff .null
    [[.operation q, .fragment f], [.operation u]] .default _ rfl ⟨rfl, rfl⟩ rfl
    (List.nodup_singleton _)
  refine ⟨_, rfl, distinct.mpr ⟨?_, List.nodup_singleton _⟩, apart⟩
  have hq : convertedName q = "A" := by cbv
  have hu : convertedName u = "B" := by cbv
  show [convertedName q, convertedName u].Nodup
  rw [hq, hu]
  decide

/-- Two named queries with different names collide where the conversion makes one name of both. -/
theorem exportedNames_collide :
    let small : Operation := .bare .query (some ⟨'a', [], rfl, rfl⟩) []
    let large : Operation := .bare .query (some ⟨'A', [], rfl, rfl⟩) []
    let documents : List Document := [[.operation small, .operation large]]
    (∀ o ∈ operationsOf documents.flatten, o.name?.isSome) ∧
      ((operationsOf documents.flatten).map operationName).Nodup ∧
      ((fragmentsOf documents.flatten).map (·.name.text)).Nodup ∧
      ∃ settings m, Decode.settings .null = .accepted settings ∧ settings.UsualSuffixes ∧
        generate .null documents = .ok m ∧ ¬m.exportedNames.Nodup := by
  intro small large documents
  have usual : Settings.default.UsualSuffixes := ⟨rfl, rfl⟩
  have collide : ¬((boundOperations documents).map convertedName).Nodup := by
    have hs : convertedName small = "A" := by cbv
    have hl : convertedName large = "A" := by cbv
    show ¬[convertedName small, convertedName large].Nodup
    rw [hs, hl]
    decide
  refine ⟨by decide, by decide, List.nodup_nil, .default,
    (compilerFor .default .browser documents.flatten).module documents.flatten, rfl, usual, rfl,
    fun h => collide ?_⟩
  rw [exportedNames_module .browser documents usual] at h
  exact (nodup_operationNames (c := compilerFor .default .browser documents.flatten) usual
    (by decide)).mp (List.nodup_append.mp h).2.1

end OperationHooks
