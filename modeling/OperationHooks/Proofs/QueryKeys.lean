import OperationHooks.Proofs.Interchange
import OperationHooks.Proofs.TypeScript.Quoted

/-!
# Keys of queries

Whether the keys of queries can be asked for makes one difference: behind each query stands one more
statement. It takes the parameter that the hook takes and gives back the key that the hook passes,
and that key holds the name of the query as it was declared. The statement is one line, unless the
namespace of the types is broken over several.
-/

namespace OperationHooks

open Compiler Decode TypeScript

/-! ### Ends of lines -/

/-- The characters of a text that end a line of a script. -/
def lineEnds (s : String) : List Char := s.toList.filter isLineTerminator

lemma lineEnds_append (s t : String) : lineEnds (s ++ t) = lineEnds s ++ lineEnds t := by
  rw [lineEnds, String.toList_append, List.filter_append]
  rfl

lemma lineEnds_of_isNameContinue {s : String} (h : ∀ c ∈ s.toList, isNameContinue c = true) :
    lineEnds s = [] := by
  rw [lineEnds, List.filter_eq_nil_iff]
  intro c hc ends
  simp only [isLineTerminator, Bool.or_eq_true, beq_iff_eq] at ends
  rcases ends with ((rfl | rfl) | rfl) | rfl
  all_goals exact absurd (h _ hc) (by decide)

lemma lineEnds_affixed {name suffix : String} (h : ∀ c ∈ name.toList, isNameContinue c = true)
    (behind : lineEnds suffix = []) : lineEnds (Naming.affixed "" name suffix) = [] := by
  have converted : lineEnds (Naming.pascal name) = [] := by
    apply lineEnds_of_isNameContinue
    intro c hc
    rw [Naming.pascal, String.toList_ofList] at hc
    exact isNameContinue_of_isAlphanum (Naming.isAlphanum_pascalChars h c hc)
  rw [Naming.affixed, lineEnds_append, lineEnds_append, converted, behind]
  rfl

lemma lineEnds_kindSuffix (c : Compiler) (kind : OperationKind) :
    lineEnds (c.kindSuffix kind) = [] := by
  rw [kindSuffix]
  split
  · rfl
  · cases kind <;> decide

/-- The ends of lines in front of a type are those of the namespace. -/
lemma lineEnds_typePrefix (settings : Settings) :
    lineEnds settings.typePrefix = lineEnds (settings.importOperationTypesFrom.getD "") := by
  rw [Settings.typePrefix]
  split
  · next none => rw [none, Option.getD_none]
  · next empty => rw [empty, Option.getD_some]
  · next given =>
    have dot : lineEnds "." = [] := by decide
    rw [given, Option.getD_some, lineEnds_append, dot, List.append_nil]

/-! ### The parameter and the key of a query -/

namespace Hook

/-- The lines of a query hook that takes its variables by one parameter and passes a key. -/
def queryLines (h : Hook) (param key : String) : List String :=
  h.opening ++ h.params.map paramLine ++
    [paramLine param,
      "      options?: " ++ h.names.options ++ queryTypes h.operation,
      "    ) =>",
      "    " ++ h.names.hook ++ queryTypes h.operation ++ "(",
      "      " ++ key ++ ",",
      "      " ++ h.fetch ++ ","] ++ closing

/-- The statement that lets other code ask for a key. -/
def keyLine (h : Hook) (param key : String) : String :=
  h.operation.hookName ++ ".getKey = (" ++ param ++ ") => " ++ key ++ ";"

lemma lines_queryHook (s : Strategy) (hooks : HookLibrary) (op : OperationSummary) :
    (s.queryHook hooks op).lines =
      (s.queryHook hooks op).queryLines op.queryVariables op.queryKey := by
  rw [lines_eq_linesWith]
  simp [linesWith, queryLines, Strategy.queryHook, signature, names, operation]

end Hook

/-- A binding of a query, and the same with one more statement that lets other code ask for its key:
the parameter is the one that the hook takes for its variables, the key is the one that it passes,
and the first item of the key is a string literal for the name of the query. Lines end in the
statement where they end in the namespace of the types and nowhere else, so it is one line exactly
if the namespace is on one. -/
structure Binding.KeyAdded (b b' : Binding) (ns param key : String) : Prop where
  hook : b.hook.lines = b.hook.queryLines param key
  text : b'.text = b.text ++ "\n" ++ b.hook.keyLine param key
  breaks : lineEnds (b.hook.keyLine param key) = lineEnds ns
  oneLine : lineEnds (b.hook.keyLine param key) = [] ↔ lineEnds ns = []
  named : key = "['" ++ b.hook.operation.name ++ "', variables]"
  denotes : ∃ h, readQuoted '\'' (key.toList.drop 2) =
    some (b.hook.operation.name.toList, ⟨", variables]".toList, h⟩)

/-! ### One operation with and without its key -/

lemma isPlain_of_isNameContinue {c : Char} (h : isNameContinue c = true) :
    isPlain '\'' c = true := by
  simp only [isPlain, Bool.and_eq_true, bne_iff_ne, ne_eq]
  refine ⟨⟨⟨?_, ?_⟩, ?_⟩, ?_⟩
  all_goals
    rintro rfl
    exact absurd h (by decide)

/-- The namespace alone brings ends of lines into the parameter. -/
lemma lineEnds_queryVariables (c : Compiler) (o : Operation) :
    lineEnds (c.summarize o).queryVariables =
      lineEnds (c.settings.importOperationTypesFrom.getD "") := by
  let suffix := c.kindSuffix o.kind ++ "Variables"
  have types : lineEnds (Naming.affixed "" (operationName o) suffix) = [] := by
    apply lineEnds_affixed (isNameContinue_operationName o)
    rw [lineEnds_append, lineEnds_kindSuffix]
    decide
  have type : (c.summarize o).variablesType =
    c.settings.typePrefix ++ Naming.affixed "" (operationName o) suffix := rfl
  have mark : lineEnds (if (c.summarize o).requiresVariables then "" else "?") = [] := by
    split <;> decide
  have around : lineEnds "variables" = [] ∧ lineEnds ": " = [] := by decide
  simp [OperationSummary.queryVariables, type, lineEnds_append, lineEnds_typePrefix, types, mark,
    around]

/-- The parameter alone brings ends of lines into the statement for a key. -/
lemma lineEnds_keyAccessor (c : Compiler) (o : Operation) :
    lineEnds (Hook.keyAccessor (c.summarize o)) = lineEnds (c.summarize o).queryVariables := by
  have name := isNameContinue_operationName o
  have hookName : lineEnds (c.summarize o).hookName = [] := by
    rw [OperationSummary.hookName, lineEnds_append]
    exact List.append_eq_nil_iff.mpr
      ⟨by decide, lineEnds_affixed name (lineEnds_kindSuffix c o.kind)⟩
  have key : lineEnds (c.summarize o).queryKey = [] := by
    have declared : lineEnds (c.summarize o).name = [] := lineEnds_of_isNameContinue name
    rw [OperationSummary.queryKey, lineEnds_append, lineEnds_append, declared]
    decide
  have around : lineEnds ".getKey = (" = [] ∧ lineEnds ") => " = [] ∧ lineEnds ";" = [] := by decide
  simp [Hook.keyAccessor, lineEnds_append, hookName, key, around]

/-- The first item of a key is read as the declared name. -/
lemma readQuoted_queryKey (c : Compiler) (o : Operation) :
    ∃ h, readQuoted '\'' ((c.summarize o).queryKey.toList.drop 2) =
      some ((operationName o).toList, ⟨", variables]".toList, h⟩) := by
  have key : (c.summarize o).queryKey.toList.drop 2 =
      (operationName o).toList ++ '\'' :: ", variables]".toList := by
    simp [OperationSummary.queryKey, summarize]
  rw [key]
  exact readQuoted_plain
    (fun d hd => isPlain_of_isNameContinue (isNameContinue_operationName o d hd)) _

/-- The statement for the key of a query stands behind what is there without it. -/
lemma Binding.text_exposed {b b' : Binding} (document : b'.document = b.document)
    (hook : b'.hook = b.hook) (off : b.exposesKey = false) (on : b'.exposesKey = true) :
    b'.text = b.text ++ "\n" ++ Hook.keyAccessor b.hook.operation := by
  rw [text, text, document, hook, off, on, if_pos rfl, if_neg Bool.false_ne_true, List.append_nil,
    String.intercalate_append_of_ne_nil (by simp) (by simp), String.intercalate_singleton]

section

variable {settings : Settings} {s : Strategy} {document : Document} {o : Operation} {b b' : Binding}
  (h : (compilerFor settings s document).binding? s o = some b)
  (h' : (compilerFor { settings with exposeQueryKeys := true } s document).binding? s o = some b')
include h h'

/-- The binding of a query with its key: one more statement. -/
lemma keyAdded_of_binding? (off : settings.exposeQueryKeys = false) (query : o.kind = .query) :
    b.KeyAdded b' (settings.importOperationTypesFrom.getD "") b.hook.operation.queryVariables
      b.hook.operation.queryKey := by
  let c := compilerFor settings s document
  obtain ⟨hook, hk, rfl⟩ := Option.map_eq_some_iff.mp h
  obtain ⟨hook', hk', rfl⟩ := Option.map_eq_some_iff.mp h'
  have same : hook' = hook := Option.some.inj (hk'.symm.trans hk)
  obtain ⟨-, rfl⟩ | ⟨mutation, -⟩ := hook?_eq_some hk
  swap
  · simp [query] at mutation
  subst same
  have breaks := (lineEnds_keyAccessor c o).trans (lineEnds_queryVariables c o)
  refine ⟨Hook.lines_queryHook s c.hooks (c.summarize o), ?_, breaks, ?_, rfl,
    readQuoted_queryKey c o⟩
  · refine Binding.text_exposed ?_ rfl ?_ ?_
    · rfl
    · simp [binding, compilerFor, off]
    · simp [binding, compilerFor, query]
  · exact iff_of_eq (congrArg (· = []) breaks)

/-- The binding of a mutation is the same with keys and without. -/
lemma text_eq_of_binding? (other : o.kind ≠ .query) : b'.text = b.text := by
  obtain ⟨hook, hk, rfl⟩ := Option.map_eq_some_iff.mp h
  obtain ⟨hook', hk', rfl⟩ := Option.map_eq_some_iff.mp h'
  have same : hook' = hook := Option.some.inj (hk'.symm.trans hk)
  subst same
  have hidden : (o.kind == .query) = false := by simpa using other
  simp only [Binding.text, binding, hidden, Bool.and_false]
  rfl

end

/-! ### Whole runs -/

/-- The key of a query holds its name, so queries with different names have different keys. -/
lemma name_of_queryKey {op op' : OperationSummary} (h : op.queryKey = op'.queryKey) :
    op.name = op'.name := by
  simpa [OperationSummary.queryKey] using h

/-- Whether the keys of queries are exposed makes no difference but this: behind each query stands
one more statement, by which its key can be asked for with the parameter and in the form that its
hook uses. It is one line exactly if the namespace of the types is on one. The rest of the module,
and what is told about it, stay the same. The keys of queries with different names differ. -/
theorem query_keys_added {options₁ options₂ : Json} {documents : List Document}
    {m₁ m₂ : GeneratedModule} (made₁ : generate options₁ documents = .ok m₁)
    (made₂ : generate options₂ documents = .ok m₂) :
    ∃ settings₁ settings₂, Decode.settings options₁ = .accepted settings₁ ∧
      Decode.settings options₂ = .accepted settings₂ ∧
      (AgreeBeside exposeKey options₁ options₂ →
        settings₂ = { settings₁ with exposeQueryKeys := settings₂.exposeQueryKeys }) ∧
      (settings₁.exposeQueryKeys = false →
        settings₂ = { settings₁ with exposeQueryKeys := true } →
        m₂.prepend = m₁.prepend ∧ m₂.diagnostics = m₁.diagnostics ∧
        m₂.fragments = m₁.fragments ∧
        List.Forall₂ (fun o b => b.hook.operation.name = (o.name?.map Name.text).getD "" ∧
          b.hook.operation.kind = o.kind) (boundOperations documents) m₁.bindings ∧
        List.Forall₂ (fun b b' =>
          if b.hook.operation.kind = .query then
            b.KeyAdded b' (settings₁.importOperationTypesFrom.getD "")
              b.hook.operation.queryVariables b.hook.operation.queryKey
          else b'.text = b.text) m₁.bindings m₂.bindings ∧
        ∀ b ∈ m₁.bindings, ∀ b' ∈ m₁.bindings,
          b.hook.operation.name ≠ b'.hook.operation.name →
          b.hook.operation.queryKey ≠ b'.hook.operation.queryKey) := by
  obtain ⟨settings₁, s₁, hd₁, hs₁, -, rfl⟩ := generate_eq_ok_iff.mp made₁
  obtain ⟨settings₂, s₂, hd₂, hs₂, -, rfl⟩ := generate_eq_ok_iff.mp made₂
  refine ⟨settings₁, settings₂, hd₁, hd₂, ?_, ?_⟩
  · intro agree
    exact settings_beside_exposeKey agree hd₁ hd₂
  intro off on
  subst on
  cases hs₁.symm.trans hs₂
  have image₁ := bindings_image settings₁ s₁ documents.flatten
  have image₂ := bindings_image { settings₁ with exposeQueryKeys := true } s₁ documents.flatten
  refine ⟨?_, ?_, rfl, ?_, ?_, ?_⟩
  · rw [prepend_module, prepend_module]
    rfl
  · rw [diagnostics_module, diagnostics_module]
    rfl
  · refine image₁.imp fun o b h => ?_
    rw [(binding?_eq_some h).2.1]
    exact ⟨rfl, rfl⟩
  · apply forall₂_of_common _ image₁ image₂
    intro o b b' h h'
    have kind : b.hook.operation.kind = o.kind := by
      rw [(binding?_eq_some h).2.1]
      rfl
    split_ifs with query
    · exact keyAdded_of_binding? h h' off (kind ▸ query)
    · exact text_eq_of_binding? h h' (kind ▸ query)
  · intro b _ b' _ apart
    exact mt name_of_queryKey apart

/-- A query, a mutation and a fragment: with keys there is one more statement behind the query. -/
theorem query_keys_added_mixed :
    let documents : List Document := [[.operation (.bare .query (some ⟨'g', ['e'], rfl, rfl⟩) []),
      .operation (.bare .mutation (some ⟨'B', [], rfl, rfl⟩) []),
      .fragment ⟨none, ⟨'F', [], rfl, rfl⟩, ⟨'T', [], rfl, rfl⟩, [], []⟩]]
    ∃ m₁ m₂ query₁ query₂ mutation₁ mutation₂,
      generate .null documents = .ok m₁ ∧
      generate (.obj [("expose_query_keys", .bool true)]) documents = .ok m₂ ∧
      m₁.bindings = [query₁, mutation₁] ∧ m₂.bindings = [query₂, mutation₂] ∧
      m₂.prepend = m₁.prepend ∧ mutation₂.text = mutation₁.text ∧
      query₂.text = query₁.text ++
        "\nuseGeQuery.getKey = (variables?: GeQueryVariables) => ['ge', variables];" := by
  intro documents
  obtain ⟨settings₁, settings₂, hd₁, hd₂, -, added⟩ :=
    @query_keys_added .null (.obj [("expose_query_keys", .bool true)]) documents _ _ rfl rfl
  cases hd₁
  cases hd₂
  obtain ⟨prepend, -, -, -, bindings, -⟩ := added rfl rfl
  cases bindings with
  | cons query rest =>
    cases rest with
    | cons mutation rest =>
      cases rest
      refine ⟨_, _, _, _, _, _, rfl, rfl, rfl, rfl, prepend, mutation, ?_⟩
      rw [if_pos (by rfl)] at query
      rw [query.text, String.append_assoc, String.append_right_inj]
      decide +kernel

/-- A namespace on two lines is accepted, and the statement for a key is on two lines with it. -/
theorem key_line_broken :
    let documents : List Document :=
      [[.operation (.bare .query (some ⟨'Q', [], rfl, rfl⟩) [])]]
    let hidden : Json := .obj [("importOperationTypesFrom", .str "A\nB")]
    let exposed : Json :=
      .obj [("exposeQueryKeys", .bool true), ("importOperationTypesFrom", .str "A\nB")]
    ∃ settings₁ settings₂ m₁ m₂ query₁ query₂,
      AgreeBeside exposeKey hidden exposed ∧
      Decode.settings hidden = .accepted settings₁ ∧ settings₁.exposeQueryKeys = false ∧
      Decode.settings exposed = .accepted settings₂ ∧ settings₂.exposeQueryKeys = true ∧
      generate hidden documents = .ok m₁ ∧ generate exposed documents = .ok m₂ ∧
      m₁.bindings = [query₁] ∧ m₂.bindings = [query₂] ∧
      query₂.text = query₁.text ++ "\n" ++
        "useQQuery.getKey = (variables?: A\nB.QQueryVariables) => ['Q', variables];" ∧
      ∀ line, query₂.text = query₁.text ++ "\n" ++ line → '\n' ∈ lineEnds line := by
  intro documents hidden exposed
  have agree : AgreeBeside exposeKey hidden exposed := by
    intro key hk
    have other : "exposeQueryKeys" ≠ key := by
      rintro rfl
      exact hk List.mem_cons_self
    simp [hidden, exposed, members, lookupMember, other]
  let c := compilerFor { Settings.default with importOperationTypesFrom := some "A\nB" } .browser
    documents.flatten
  let o : Operation := .bare .query (some ⟨'Q', [], rfl, rfl⟩) []
  let query₁ := c.binding o (Strategy.browser.queryHook c.hooks (c.summarize o))
  let query₂ : Binding := { query₁ with exposesKey := true }
  have statement : Hook.keyAccessor query₁.hook.operation =
      "useQQuery.getKey = (variables?: A\nB.QQueryVariables) => ['Q', variables];" := by
    decide +kernel
  have added : query₂.text = query₁.text ++ "\n" ++ Hook.keyAccessor query₁.hook.operation :=
    Binding.text_exposed rfl rfl rfl rfl
  rw [statement] at added
  refine ⟨_, _, _, _, query₁, query₂, agree, rfl, rfl, rfl, rfl, rfl, rfl, rfl, rfl, added, ?_⟩
  intro line behind
  rw [added, String.append_right_inj] at behind
  rw [← behind]
  decide +kernel

end OperationHooks
