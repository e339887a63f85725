import OperationHooks.Proofs.Compilation.Locality
import OperationHooks.Proofs.FirstOccurrences

/-!
# What a module imports

While hooks are rendered a run records the identifiers that they refer to and the statements that
their strategy asks for. What comes of it depends on the kinds of the queries and mutations alone:
the pair of a kind is listed once, where an operation of the kind first occurs, and a strategy that
asks for a statement gets it as soon as there is one hook.
-/

namespace OperationHooks

open Compiler

/-! ### Recording without repetition -/

/-- What is recorded step by step is what is recorded at once, first occurrences in order. -/
lemma addNew_eraseDups (xs ys : List String) :
    addNew xs.eraseDups ys = (xs ++ ys).eraseDups := by
  induction ys generalizing xs with
  | nil => simp [addNew]
  | cons y ys ih =>
    have step : (if y ∈ xs.eraseDups then xs.eraseDups else xs.eraseDups ++ [y]) =
        (xs ++ [y]).eraseDups := by
      rw [eraseDups_concat]
      by_cases h : y ∈ xs <;> simp [h]
    rw [addNew, List.foldl_cons, step, ← addNew, ih]
    simp

/-- What steps record one after the other is recorded as if at once. -/
lemma recorded_foldl {σ β : Type} (record : σ → List String) {step : σ → β → σ}
    {added : β → List String}
    (hstep : ∀ st x, record (step st x) = addNew (record st) (added x)) (st : σ) (xs : List β) :
    record (xs.foldl step st) = addNew (record st) (xs.flatMap added) := by
  induction xs generalizing st with
  | nil => rfl
  | cons x xs ih => rw [List.foldl_cons, ih, hstep, List.flatMap_cons, addNew, addNew, addNew,
      List.foldl_append]

section Run

variable {c : Compiler} {s : Strategy}

/-- The identifiers recorded in a run: those of its operations, first occurrences in order. -/
lemma identifiers_compile (hs : c.strategy? = some s) (document : Document) :
    (c.compile .empty document).identifiers =
      ((operationsOf document).flatMap (c.identifiersFor s)).eraseDups := by
  rw [compile, recorded_foldl RunState.identifiers fun st o => by rw [compileOperation_eq hs]]
  exact addNew_eraseDups [] _

/-- The statements asked for in a run: those of its operations, first occurrences in order. -/
lemma imports_compile (hs : c.strategy? = some s) (document : Document) :
    (c.compile .empty document).imports =
      ((operationsOf document).flatMap (c.importsFor s)).eraseDups := by
  rw [compile, recorded_foldl RunState.imports fun st o => by rw [compileOperation_eq hs]]
  exact addNew_eraseDups [] _

end Run

/-! ### Kinds of operations -/

/-- The hook of the data library for a kind of operation, with the type of its options. -/
def OperationKind.identifiers : OperationKind → List String
  | .query => ["useQuery", "UseQueryOptions"]
  | .mutation => ["useMutation", "UseMutationOptions"]
  | .subscription => []

/-- The kinds of the queries and mutations of documents, by first occurrence. -/
def boundKinds (documents : List Document) : List OperationKind :=
  ((boundOperations documents).map (·.kind)).eraseDups

/-- The identifiers that a module for documents imports: the pair of each kind of operation that
is bound. -/
def importedIdentifiers (documents : List Document) : List String :=
  (boundKinds documents).flatMap OperationKind.identifiers

/-- The statement that imports the hooks of the data library, where there is something to bind. -/
def hookImportLine? (settings : Settings) (documents : List Document) : Option String :=
  if boundOperations documents = [] then none
  else some (Mapper.importNamed (", ".intercalate (importedIdentifiers documents))
    settings.hookModule)

lemma OperationKind.nodup_identifiers (k : OperationKind) : k.identifiers.Nodup := by
  cases k <;> decide

lemma OperationKind.eq_of_mem_identifiers {k k' : OperationKind} {x : String}
    (h : x ∈ k.identifiers) (h' : x ∈ k'.identifiers) : k = k' := by
  cases k <;> cases k' <;> simp [identifiers] at h h' ⊢ <;> rcases h with rfl | rfl <;> simp at h'

lemma eraseDups_flatMap_identifiers (ks : List OperationKind) :
    (ks.flatMap OperationKind.identifiers).eraseDups =
      ks.eraseDups.flatMap OperationKind.identifiers := by
  induction ks using List.reverseRecOn with
  | nil => rfl
  | append_singleton ks k ih =>
    rw [List.flatMap_append, List.flatMap_singleton, eraseDups_concat]
    by_cases h : k ∈ ks
    · rw [if_pos h, List.append_nil, ← ih]
      apply eraseDups_append_of_subset
      intro x hx
      exact List.mem_flatMap.mpr ⟨k, h, hx⟩
    · -- a new kind brings identifiers that no other kind has
      have fresh : k.identifiers.removeAll (ks.flatMap OperationKind.identifiers) =
          k.identifiers := by
        simp only [List.removeAll, List.filter_eq_self]
        intro x hx
        simp only [List.elem_eq_mem, Bool.not_eq_true', decide_eq_false_iff_not]
        intro hks
        obtain ⟨k', hk', hx'⟩ := List.mem_flatMap.mp hks
        exact h (OperationKind.eq_of_mem_identifiers hx hx' ▸ hk')
      have pair : k.identifiers.eraseDups = k.identifiers := by
        cases k <;> decide
      rw [if_neg h, List.flatMap_append, List.flatMap_singleton, List.eraseDups_append, ih, fresh,
        pair]

lemma nodup_flatMap_identifiers {ks : List OperationKind} (h : ks.Nodup) :
    (ks.flatMap OperationKind.identifiers).Nodup := by
  apply List.nodup_flatMap.mpr
  refine ⟨fun k _ => k.nodup_identifiers, h.imp ?_⟩
  intro k k' hne x hx hx'
  exact hne (OperationKind.eq_of_mem_identifiers hx hx')

/-! ### What operations record -/

section Operations

variable (c : Compiler) (s : Strategy) (o : Operation)

lemma identifiersFor_eq : c.identifiersFor s o = o.kind.identifiers := by
  cases h : o.kind <;> simp [identifiersFor, hook?, h, OperationKind.identifiers] <;>
    exact ⟨rfl, rfl⟩

lemma importsFor_eq : c.importsFor s o = if o.kind = .subscription then [] else s.imports := by
  cases h : o.kind <;> simp [importsFor, hook?, h]

end Operations

lemma mem_boundKinds {documents : List Document} {k : OperationKind} :
    k ∈ boundKinds documents ↔ ∃ o ∈ boundOperations documents, o.kind = k := by
  rw [boundKinds, List.mem_eraseDups, List.mem_map]

lemma flatMap_boundOperations (documents : List Document) {f : Operation → List String}
    (hf : ∀ o, o.kind = .subscription → f o = []) :
    (operationsOf documents.flatten).flatMap f = (boundOperations documents).flatMap f := by
  rw [boundOperations]
  generalize operationsOf documents.flatten = ops
  induction ops with
  | nil => rfl
  | cons o ops ih =>
    by_cases h : o.kind = .subscription
    · simp [h, hf o h, ih]
    · simp [h, ih]

lemma identifiers_run (settings : Settings) (s : Strategy) (documents : List Document) :
    ((compilerFor settings s documents.flatten).compile .empty documents.flatten).identifiers =
      importedIdentifiers documents := by
  have kinds : (fun o : Operation => o.kind.identifiers) =
      OperationKind.identifiers ∘ fun o => o.kind := rfl
  rw [identifiers_compile (s := s) rfl, funext (identifiersFor_eq _ s),
    flatMap_boundOperations documents, importedIdentifiers, boundKinds,
    ← eraseDups_flatMap_identifiers, List.flatMap_map]
  intro o ho
  rw [ho, OperationKind.identifiers]

lemma imports_run (settings : Settings) (s : Strategy) (documents : List Document) :
    ((compilerFor settings s documents.flatten).compile .empty documents.flatten).imports =
      if boundOperations documents = [] then [] else s.imports := by
  rw [imports_compile (s := s) rfl, funext (importsFor_eq _ s), flatMap_boundOperations documents]
  · cases h : boundOperations documents with
    | nil => rfl
    | cons o ops =>
      have bound : o.kind ≠ .subscription := kind_of_mem_boundOperations (h ▸ List.mem_cons_self)
      rw [List.flatMap_cons, if_neg bound, eraseDups_append_of_subset]
      · rw [if_neg (by simp)]
        cases s <;> simp [Strategy.imports, List.eraseDups_cons]
      · intro x hx
        obtain ⟨o', -, hx⟩ := List.mem_flatMap.mp hx
        by_cases h' : o'.kind = .subscription
        · simp [h'] at hx
        · simpa [h'] using hx
  · intro o ho
    rw [if_pos ho]

lemma importedIdentifiers_eq_nil_iff {documents : List Document} :
    importedIdentifiers documents = [] ↔ boundOperations documents = [] := by
  constructor
  · intro h
    apply List.eq_nil_iff_forall_not_mem.mpr
    intro o ho
    have nothing := List.flatMap_eq_nil_iff.mp h o.kind (mem_boundKinds.mpr ⟨o, ho, rfl⟩)
    have bound := kind_of_mem_boundOperations ho
    cases hk : o.kind <;> simp_all [OperationKind.identifiers]
  · intro h
    rw [importedIdentifiers, boundKinds, h]
    rfl

lemma isSome_hookImportLine? {settings : Settings} {documents : List Document} :
    (hookImportLine? settings documents).isSome ↔ boundOperations documents ≠ [] := by
  rw [hookImportLine?]
  split <;> simp_all

lemma text_of_mem_hookImportLine? {settings : Settings} {documents : List Document} {text : String}
    (h : text ∈ hookImportLine? settings documents) :
    text = Mapper.importNamed (", ".intercalate (importedIdentifiers documents))
      settings.hookModule := by
  rw [hookImportLine?] at h
  split at h
  · cases h
  · exact (Option.some.inj h).symm

lemma hookImport?_run (settings : Settings) (s : Strategy) (documents : List Document) :
    (compilerFor settings s documents.flatten).hookImport?
        ((compilerFor settings s documents.flatten).compile .empty documents.flatten) =
      hookImportLine? settings documents := by
  have count : ((compilerFor settings s documents.flatten).compile .empty
      documents.flatten).operationCount = (operationsOf documents.flatten).length := by
    simpa [compile, RunState.empty] using operationCount_foldl (s := s) rfl RunState.empty _
  rw [hookImport?, hookImportLine?, identifiers_run]
  simp only [importedIdentifiers_eq_nil_iff, count]
  by_cases h : boundOperations documents = []
  · simp [h]
  · have counted : operationsOf documents.flatten ≠ [] := by
      intro hn
      simp [boundOperations, hn] at h
    simp [h, counted, compilerFor]

/-- What goes before a module: what its strategy asks for if there is a hook, the import of the
hooks, and the helper of the strategy. -/
lemma prepend_module (settings : Settings) (s : Strategy) (documents : List Document) :
    ((compilerFor settings s documents.flatten).module documents.flatten).prepend =
      (if boundOperations documents = [] then [] else s.imports)
        ++ (hookImportLine? settings documents).toList ++ s.helper?.toList := by
  rw [← imports_run settings s documents, ← hookImport?_run settings s documents]
  rfl

lemma mem_importedIdentifiers {documents : List Document} {x : String} :
    x ∈ importedIdentifiers documents ↔
      ∃ o ∈ boundOperations documents, x ∈ o.kind.identifiers := by
  rw [importedIdentifiers, List.mem_flatMap]
  constructor
  · rintro ⟨k, hk, hx⟩
    obtain ⟨o, ho, rfl⟩ := mem_boundKinds.mp hk
    exact ⟨o, ho, hx⟩
  · rintro ⟨o, ho, hx⟩
    exact ⟨o.kind, mem_boundKinds.mpr ⟨o, ho, rfl⟩, hx⟩

/-- A hook is built on the pair of its kind. -/
lemma names_binding {c : Compiler} {s : Strategy} {o : Operation} {b : Binding}
    (h : c.binding? s o = some b) :
    [b.hook.names.hook, b.hook.names.options] = o.kind.identifiers := by
  rw [← identifiersFor_eq c s o, identifiersFor, (binding?_eq_some h).2.2]
  rfl

lemma mem_importedIdentifiers_iff_names (settings : Settings) (s : Strategy)
    (documents : List Document) (x : String) :
    x ∈ importedIdentifiers documents ↔
      ∃ b ∈ ((compilerFor settings s documents.flatten).module documents.flatten).bindings,
        x = b.hook.names.hook ∨ x = b.hook.names.options := by
  have image := bindings_image settings s documents.flatten
  rw [mem_importedIdentifiers]
  constructor
  · rintro ⟨o, ho, hx⟩
    obtain ⟨i, hi⟩ := List.mem_iff_getElem?.mp ho
    obtain ⟨b, hb, bound⟩ := forall₂_getElem? image hi
    rw [← names_binding bound] at hx
    exact ⟨b, List.mem_iff_getElem?.mpr ⟨i, hb⟩, by simpa using hx⟩
  · rintro ⟨b, hb, hx⟩
    obtain ⟨i, hi⟩ := List.mem_iff_getElem?.mp hb
    obtain ⟨o, ho, bound⟩ := forall₂_getElem? image.flip hi
    refine ⟨o, List.mem_iff_getElem?.mpr ⟨i, ho⟩, ?_⟩
    rw [← names_binding bound]
    simpa using hx

/-- What goes before a module matches its hooks. It is what the strategy asks for once there is a
hook, then one import of hooks if there is a query or a mutation, then the helper of the strategy if
it has one. The import lists, without repetition, exactly the identifiers that hooks are built on:
the pair of each kind that occurs, the kind that occurs first in front. -/
theorem imports_match_hooks {options : Json} {documents : List Document} {m : GeneratedModule}
    (made : generate options documents = .ok m) :
    ∃ settings s, Decode.settings options = .accepted settings ∧
      Strategy.ofFetcher settings.fetcher = .ok s ∧
      ∃ (kinds : List OperationKind) (line : Option String),
        let identifiers := kinds.flatMap OperationKind.identifiers
        m.prepend = (if boundOperations documents = [] then [] else s.imports)
          ++ line.toList ++ s.helper?.toList ∧
        (line.isSome ↔
          ∃ o ∈ operationsOf documents.flatten, o.kind = .query ∨ o.kind = .mutation) ∧
        (∀ text ∈ line,
          text = Mapper.importNamed (", ".intercalate identifiers) settings.hookModule) ∧
        kinds.Nodup ∧ identifiers.Nodup ∧
        (∀ k, k ∈ kinds ↔ k ≠ .subscription ∧ ∃ o ∈ operationsOf documents.flatten, o.kind = k) ∧
        kinds.head? =
          ((operationsOf documents.flatten).find? fun o => o.kind ≠ .subscription).map (·.kind) ∧
        ∀ x, x ∈ identifiers ↔
          ∃ b ∈ m.bindings, x = b.hook.names.hook ∨ x = b.hook.names.options := by
  obtain ⟨settings, s, hd, hs, -, rfl⟩ := generate_eq_ok_iff.mp made
  have unique : (boundKinds documents).Nodup := nodup_eraseDups _
  refine ⟨settings, s, hd, hs, boundKinds documents, hookImportLine? settings documents,
    prepend_module settings s documents, ?_, ?_, unique, nodup_flatMap_identifiers unique, ?_, ?_,
    mem_importedIdentifiers_iff_names settings s documents⟩
  · rw [isSome_hookImportLine?]
    constructor
    · intro h
      obtain ⟨o, ho⟩ := List.exists_mem_of_ne_nil _ h
      obtain ⟨ho, kind⟩ := List.mem_filter.mp ho
      refine ⟨o, ho, ?_⟩
      cases hk : o.kind <;> simp_all
    · rintro ⟨o, ho, kind⟩
      refine List.ne_nil_of_mem (List.mem_filter.mpr ⟨ho, ?_⟩)
      rcases kind with kind | kind <;> simp [kind]
  · intro text h
    exact text_of_mem_hookImportLine? h
  · intro k
    rw [mem_boundKinds]
    constructor
    · rintro ⟨o, ho, rfl⟩
      exact ⟨kind_of_mem_boundOperations ho, o, (List.mem_filter.mp ho).1, rfl⟩
    · rintro ⟨hk, o, ho, rfl⟩
      exact ⟨o, List.mem_filter.mpr ⟨ho, by simpa using hk⟩, rfl⟩
  · rw [boundKinds, head?_eraseDups, List.head?_map, boundOperations, List.head?_filter]

/-- A mutation in front of a query, with subscriptions around them, in a module for clients. -/
theorem imports_match_hooks_mixed :
    let documents : List Document :=
      [[.operation (.bare .subscription none []), .operation (.bare .mutation none [])],
        [.operation (.bare .query none []), .operation (.bare .subscription none [])]]
    ∃ (m : GeneratedModule) (kinds : List OperationKind),
      generate (.obj [("fetcher", .str "graphql-request")]) documents = .ok m ∧
      kinds.head? = some .mutation ∧ .query ∈ kinds ∧
      m.prepend = Strategy.client.imports
        ++ [Mapper.importNamed (", ".intercalate (kinds.flatMap OperationKind.identifiers))
          "react-query"] ++ Strategy.client.helper?.toList := by
  intro documents
  obtain ⟨settings, s, hd, hs, kinds, line, prepend, present, text, -, -, kind, first, -⟩ :=
    @imports_match_hooks (.obj [("fetcher", .str "graphql-request")]) documents _ rfl
  cases hd
  cases hs
  have query : ∃ o ∈ operationsOf documents.flatten, o.kind = .query :=
    ⟨.bare .query none [], by simp [documents, operationsOf, Definition.operation?], rfl⟩
  obtain ⟨o, ho, hk⟩ := query
  obtain ⟨t, ht⟩ := Option.isSome_iff_exists.mp (present.mpr ⟨o, ho, .inl hk⟩)
  have hooks := text t ht
  refine ⟨_, kinds, rfl, first, (kind .query).mpr ⟨by decide, o, ho, hk⟩, ?_⟩
  rw [prepend, ht, hooks]
  rfl

end OperationHooks
