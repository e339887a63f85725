import OperationHooks.Proofs.Compilation.Imports
import OperationHooks.Proofs.MapperForms
import OperationHooks.Proofs.SentDocument
import OperationHooks.Proofs.TypeScript.ImportDeclaration

/-!
# What imports bind

The import of hooks and the import of the user's function, read as declarations. From a module
whose name stands for itself between quotes the one binds the hooks that bindings are built on, and
the other the function that all bindings call, if what the mapper names can be bound at all.
-/

namespace OperationHooks

open Compiler TypeScript

/-- A text that stands for itself between single quotes: it has no quote, no backslash and no end
of a line. -/
def StandsQuoted (text : String) : Prop := text.toList.all (isPlain '\'') = true

instance (text : String) : Decidable (StandsQuoted text) :=
  inferInstanceAs (Decidable (_ = true))

/-! ### Hooks -/

lemma OperationKind.isBindable_identifiers (A : Alphabet) (k : OperationKind) :
    ∀ x ∈ k.identifiers, A.IsBindable x := by
  have ascii : ∀ x ∈ k.identifiers, x.toList.all (fun c => c.toNat < 128) = true ∧
      Alphabet.ascii.isWord x.toList = true ∧ x ∉ reservedWords := by
    cases k <;> decide
  intro x hx
  obtain ⟨small, word, free⟩ := ascii x hx
  exact ⟨Alphabet.isWord_of_ascii small word, free⟩

/-- The import of the hooks is a declaration of their names. -/
lemma importDeclaration?_hooks (A : Alphabet) {settings : Settings} {documents : List Document}
    (quoted : StandsQuoted settings.hookModule) {text : String}
    (h : text ∈ hookImportLine? settings documents) :
    importDeclaration? A text =
      some ⟨(importedIdentifiers documents).map .plain, settings.hookModule⟩ := by
  have bound : boundOperations documents ≠ [] :=
    isSome_hookImportLine?.mp (Option.isSome_of_mem h)
  have ne : importedIdentifiers documents ≠ [] := mt importedIdentifiers_eq_nil_iff.mp bound
  have bindable : ∀ x ∈ importedIdentifiers documents, A.IsBindable x := by
    intro x hx
    obtain ⟨o, -, hx⟩ := mem_importedIdentifiers.mp hx
    exact o.kind.isBindable_identifiers A x hx
  have distinct : (importedIdentifiers documents).Nodup :=
    nodup_flatMap_identifiers (nodup_eraseDups _)
  rw [text_of_mem_hookImportLine? h]
  obtain ⟨x, xs, hx⟩ := List.exists_cons_of_ne_nil ne
  rw [hx] at bindable distinct ⊢
  exact importDeclaration?_importNamed bindable distinct quoted

/-! ### Mappers -/

/-- What the function of a mapper is among the exports of its module. -/
def Mapper.exported : Mapper → Export
  | .named _ symbol => .named symbol
  | _ => .default

lemma isSome_importStatement? {mapper : Mapper} {module : String}
    (origin : mapper.module? = some module) : mapper.importStatement?.isSome := by
  cases mapper with
  | «local» symbol => cases origin
  | named path symbol => rfl
  | defaultExport path symbol => rfl

/-- The import of a function whose name can be bound is a declaration of that name. -/
lemma importDeclaration?_mapper {A : Alphabet} {mapper : Mapper} {module text : String}
    (origin : mapper.module? = some module) (quoted : StandsQuoted module)
    (bindable : A.IsBindable mapper.symbol) (imported : mapper.importStatement? = some text) :
    importDeclaration? A text = some ⟨[⟨mapper.exported, mapper.symbol⟩], module⟩ := by
  cases mapper with
  | «local» symbol => cases origin
  | named path symbol =>
    cases origin
    cases imported
    have single : ", ".intercalate [symbol] = symbol := by simp
    have bound : ∀ x ∈ [symbol], A.IsBindable x := fun x hx => List.mem_singleton.mp hx ▸ bindable
    have read := importDeclaration?_importNamed bound (List.nodup_singleton symbol) quoted
    rwa [single] at read
  | defaultExport path symbol =>
    cases origin
    cases imported
    exact importDeclaration?_importDefault bindable quoted

/-! ### Calls -/

/-- A hook fetches by a call of a function, in a function of the variables or by itself. -/
def Hook.Calls (h : Hook) (function : String) : Prop :=
  "      " ++ h.fetch ++ "," ∈ h.lines ∧
    ∃ opening arguments closing,
      opening ∈ ["", "(" ++ h.operation.mutationVariables ++ ") => "] ∧
      h.fetch = opening ++ h.operation.typed function ++ "(" ++ arguments ++ ")" ++ closing

lemma calls_of_call {s : Strategy} {h : Hook} {opening closing : String}
    (front : opening ∈ ["", "(" ++ h.operation.mutationVariables ++ ") => "])
    (fetch : h.fetch = opening ++ s.call h.operation ++ closing) : h.Calls s.functionName := by
  refine ⟨h.fetch_mem_lines, opening,
    ", ".intercalate (s.callArguments h.operation ++ ["variables"]), closing, front, ?_⟩
  rw [fetch, Strategy.call]
  simp only [String.append_assoc]

lemma calls_mutation {s : Strategy} {h : Hook} (fetch : h.fetch = s.mutationFunction h.operation) :
    h.Calls s.functionName := by
  rcases mutationFunction_cases s h.operation with called | returned
  · exact calls_of_call (by simp) (fetch.trans called)
  · refine ⟨h.fetch_mem_lines, "", h.operation.document, "", by simp, ?_⟩
    rw [fetch, returned]
    simp

/-- Every hook calls the function of its strategy. -/
lemma calls_of_binding? {c : Compiler} {s : Strategy} {o : Operation} {b : Binding}
    (h : c.binding? s o = some b) : b.hook.Calls s.functionName := by
  obtain ⟨-, -, hh⟩ := binding?_eq_some h
  rcases hook?_eq_some hh with ⟨-, hook⟩ | ⟨-, hook⟩
  · have fetch : b.hook.fetch = "" ++ s.call b.hook.operation ++ "" := by
      rw [hook]
      simp [Strategy.queryHook, Hook.fetch, Hook.operation]
    exact calls_of_call (by simp) fetch
  · have fetch : b.hook.fetch = s.mutationFunction b.hook.operation := by
      rw [hook]
      rfl
    exact calls_mutation fetch

lemma calls_module (settings : Settings) (s : Strategy) (document : Document) :
    ∀ b ∈ ((compilerFor settings s document).module document).bindings,
      b.hook.Calls s.functionName := by
  intro b hb
  obtain ⟨o, ho⟩ := exists_operation rfl hb
  exact calls_of_binding? ho

/-- A module whose strategy calls the function of a mapper. -/
lemma exists_module {options : Json} {settings : Settings} (mapper : Mapper) {isLazy : Bool}
    {text : String} (documents : List Document)
    (accepted : Decode.settings options = .accepted settings)
    (mapped : Strategy.ofFetcher settings.fetcher = .ok (.mapped mapper isLazy))
    (imported : mapper.importStatement? = some text) :
    ∃ m, generate options documents = .ok m ∧
      m.bindings.length = (boundOperations documents).length ∧
      (∀ b ∈ m.bindings, b.hook.Calls mapper.symbol) ∧ text ∈ m.prepend := by
  have writable := (Strategy.mapped mapper isLazy).isWritable_of_no_options rfl
  refine ⟨_, generate_eq_ok_iff.mpr ⟨settings, _, accepted, mapped, writable, rfl⟩, ?_, ?_, ?_⟩
  · exact (bindings_image settings _ documents.flatten).length_eq.symm
  · exact calls_module settings _ documents.flatten
  · rw [prepend_module]
    simp [Strategy.helper?, Strategy.helperAround, imported]

/-! ### Whole modules -/

/-- What goes before a module is what its strategy asks for, the import of the hooks, and the helper
of the strategy; and the imports bind what the code calls. If the name of the hook module stands for
itself between quotes, the import of the hooks is a declaration that names that module and binds
the hooks. If that of the user's module does, the import of the user's function is a declaration
that names it and binds one name, the one that every binding calls, if and only if that name can be
the name of a binding. -/
theorem imports_bind_calls (A : Alphabet) {options : Json} {documents : List Document}
    {m : GeneratedModule} (made : generate options documents = .ok m) :
    ∃ settings s, Decode.settings options = .accepted settings ∧
      Strategy.ofFetcher settings.fetcher = .ok s ∧
      m.prepend = (if boundOperations documents = [] then [] else s.imports)
        ++ (hookImportLine? settings documents).toList ++ s.helper?.toList ∧
      (StandsQuoted settings.hookModule → ∀ text ∈ hookImportLine? settings documents,
        importDeclaration? A text =
          some ⟨(importedIdentifiers documents).map .plain, settings.hookModule⟩) ∧
      (∀ x, x ∈ importedIdentifiers documents ↔
        ∃ b ∈ m.bindings, x = b.hook.names.hook ∨ x = b.hook.names.options) ∧
      (∀ b ∈ m.bindings, b.hook.Calls s.functionName) ∧
      ∀ mapper isLazy module, s = .mapped mapper isLazy → mapper.module? = some module →
        StandsQuoted module →
        ∃ text, s.helper? = some text ∧
          (A.IsBindable s.functionName →
            importDeclaration? A text = some ⟨[⟨mapper.exported, s.functionName⟩], module⟩) ∧
          ((∃ d, importDeclaration? A text = some d ∧ d.specifier = module ∧
            d.names = [s.functionName]) ↔ A.IsBindable s.functionName) := by
  obtain ⟨settings, s, hd, hs, -, rfl⟩ := generate_eq_ok_iff.mp made
  refine ⟨settings, s, hd, hs, prepend_module settings s documents,
    fun quoted text h => importDeclaration?_hooks A quoted h,
    mem_importedIdentifiers_iff_names settings s documents,
    calls_module settings s documents.flatten, ?_⟩
  rintro mapper isLazy module rfl origin quoted
  obtain ⟨text, imported⟩ := Option.isSome_iff_exists.mp (isSome_importStatement? origin)
  have read := fun bindable => importDeclaration?_mapper (A := A) origin quoted bindable imported
  refine ⟨text, imported, read, ?_, fun bindable => ⟨_, read bindable, rfl, rfl⟩⟩
  -- whatever declaration is read, the names that it binds can be bound
  rintro ⟨d, hd, -, names⟩
  apply (isSound_of_importDeclaration? hd).1
  rw [names]
  exact List.mem_cons_self

/-- A query whose fetcher is the default export of a module. -/
theorem imports_bind_calls_default :
    let documents : List Document := [[.operation (.bare .query (some ⟨'A', [], rfl, rfl⟩) [])]]
    ∃ m hooks function, generate (.obj [("fetcher", .str "./m#default as f")]) documents = .ok m ∧
      m.prepend = [hooks, function] ∧
      importDeclaration? .ascii hooks =
        some ⟨[.plain "useQuery", .plain "UseQueryOptions"], "react-query"⟩ ∧
      importDeclaration? .ascii function = some ⟨[⟨.default, "f"⟩], "./m"⟩ ∧
      ∀ b ∈ m.bindings, b.hook.Calls "f" := by
  intro documents
  obtain ⟨settings, s, hd, hs, prepend, hooks, -, calls, mapped⟩ :=
    @imports_bind_calls .ascii (.obj [("fetcher", .str "./m#default as f")]) documents _ rfl
  cases hd
  cases hs
  obtain ⟨function, helper, read, -⟩ := mapped _ _ "./m" rfl rfl (by decide)
  have line := hooks (by decide) _ rfl
  refine ⟨_, _, function, rfl, ?_, line, read (by decide), calls⟩
  rw [prepend, helper]
  rfl

/-! ### Where imports do not bind what is called -/

/-- A name can be bound under another one. -/
lemma importDeclaration?_renamed :
    importDeclaration? .ascii (Mapper.importNamed "a as b" "./m") =
      some ⟨[⟨.named "a", "b"⟩], "./m"⟩ := by
  have spelled : (Mapper.importNamed "a as b" "./m").toList =
      "import".toList ++ ([' '] ++ '\x7b' :: ([' '] ++ ("a".toList ++ ([' '] ++ ("as".toList
        ++ ([' '] ++ ("b".toList ++ ([' '] ++ '\x7d' ::
          (" from '" ++ "./m" ++ "';").toList)))))))) := by decide
  have tokens : importTokens? .ascii (Mapper.importNamed "a as b" "./m").toList =
      some [.word "import", .mark '\x7b', .word "a", .word "as", .word "b", .mark '\x7d',
        .word "from", .text "./m", .mark ';'] := by
    rw [spelled, importTokens?_import, importTokens?_mark blank_space (by decide),
      importTokens?_word blank_space (by decide) (Alphabet.stops_space _),
      importTokens?_word blank_space (by decide) (Alphabet.stops_space _),
      importTokens?_word blank_space (by decide) (Alphabet.stops_space _),
      importTokens?_mark blank_space (by decide), importTokens?_from (by decide)]
    rfl
  exact importDeclaration?_eq tokens rfl (by decide)

/-- A quote in the name of a module ends the name. -/
lemma importDeclaration?_quote :
    importDeclaration? .ascii (Mapper.importNamed "f" "./o'brien") = none := by
  have spelled : (Mapper.importNamed "f" "./o'brien").toList =
      "import".toList ++ ([' '] ++ '\x7b' :: ([' '] ++ ("f".toList ++ ([' '] ++ '\x7d' ::
        ([' '] ++ ("from".toList ++ ([' '] ++ '\'' :: ("./o".toList ++ '\'' ::
          ([] ++ ("brien".toList ++ ['\'', ';'])))))))))) := by decide
  have unfinished : importTokens? .ascii ['\'', ';'] = none := by
    have read : readToken .ascii ['\'', ';'] = none := by
      simp [readToken, readQuoted]
    have front := importTokens?_front (A := .ascii) (b := []) (by simp)
      (by decide : isScriptBlank '\'' = false) [';']
    rw [read] at front
    exact front
  have tokens : importTokens? .ascii (Mapper.importNamed "f" "./o'brien").toList = none := by
    rw [spelled, importTokens?_import, importTokens?_mark blank_space (by decide),
      importTokens?_word blank_space (by decide) (Alphabet.stops_space _),
      importTokens?_mark blank_space (by decide),
      importTokens?_word blank_space (by decide) (Alphabet.stops_space _),
      importTokens?_text blank_space (by decide),
      importTokens?_word (by simp) (by decide) (Alphabet.stops_part (by decide) (by decide) _),
      unfinished]
    rfl
  rw [importDeclaration?, tokens]
  rfl

/-- One mapper names an export that is bound under another name than the one that is called; the
module of another has a quote in its name, and what imports it is no declaration. -/
theorem imports_apart_from_calls :
    let documents : List Document := [[.operation (.bare .query (some ⟨'A', [], rfl, rfl⟩) [])]]
    (∃ m text, generate (.obj [("fetcher", .str "./m#a as b")]) documents = .ok m ∧
      m.bindings.length = 1 ∧ (∀ b ∈ m.bindings, b.hook.Calls "a as b") ∧ text ∈ m.prepend ∧
      importDeclaration? .ascii text = some ⟨[⟨.named "a", "b"⟩], "./m"⟩) ∧
    ∃ m text, generate (.obj [("fetcher", .str "./o'brien#f")]) documents = .ok m ∧
      text = Mapper.importNamed "f" "./o'brien" ∧ text ∈ m.prepend ∧
      importDeclaration? .ascii text = none := by
  intro documents
  constructor
  · have accepted : Decode.settings (.obj [("fetcher", .str "./m#a as b")]) =
        .accepted { Settings.default with fetcher := .custom "./m#a as b" false } := rfl
    obtain ⟨m, made, bindings, calls, imported⟩ :=
      exists_module (.named "./m" "a as b") documents accepted rfl rfl
    exact ⟨m, _, made, bindings, calls, imported, importDeclaration?_renamed⟩
  · have accepted : Decode.settings (.obj [("fetcher", .str "./o'brien#f")]) =
        .accepted { Settings.default with fetcher := .custom "./o'brien#f" false } := rfl
    obtain ⟨m, made, -, -, imported⟩ :=
      exists_module (.named "./o'brien" "f") documents accepted rfl rfl
    exact ⟨m, _, made, rfl, imported, importDeclaration?_quote⟩

end OperationHooks
