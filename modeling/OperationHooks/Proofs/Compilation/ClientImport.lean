import OperationHooks.Proofs.Compilation.Imports

/-!
# The type of clients

A module for clients mentions the type of clients in its helper and in each of its hooks. The
statement that imports the type is asked for when a hook is rendered, so it stands in front of every
module that has a hook, and a module without hooks does not have it.
-/

namespace OperationHooks

open Compiler

/-- The statement that imports the type of clients. -/
def clientImport : String := Mapper.importNamed "GraphQLClient" "graphql-request"

/-- A text mentions the type of clients. -/
def MentionsClient (text : String) : Prop := "GraphQLClient".toList <:+: text.toList

lemma infix_intercalate {separator line : String} {lines : List String} (h : line ∈ lines) :
    line.toList <:+: (separator.intercalate lines).toList := by
  induction lines with
  | nil => simp at h
  | cons l ls ih =>
    cases ls with
    | nil =>
      rw [List.mem_singleton.mp h]
      simp
    | cons l' ls =>
      rw [String.intercalate_cons_cons, String.toList_append, String.toList_append]
      rcases List.mem_cons.mp h with rfl | h
      · rw [List.append_assoc]
        exact (List.prefix_append _ _).isInfix
      · exact (ih h).trans (List.suffix_append _ _).isInfix

/-- The helper of the client strategy mentions the type, hooks or no hooks. -/
lemma mentionsClient_helper : ∃ helper, Strategy.client.helper? = some helper ∧
    MentionsClient helper := by
  refine ⟨_, rfl, ?_⟩
  have line : MentionsClient ("function fetcher<TData, TVariables>(" ++ "client: GraphQLClient, "
      ++ "query: string, variables?: TVariables) \x7b") := by
    simp only [MentionsClient]
    decide +kernel
  apply List.IsInfix.trans line
  apply infix_intercalate
  simp [Strategy.helperLines]

lemma mentionsClient_hook {c : Compiler} {o : Operation} {h : Hook}
    (hh : c.hook? .client o = some h) : MentionsClient h.text := by
  have line : MentionsClient (Hook.paramLine "client: GraphQLClient") := by
    simp only [MentionsClient]
    decide +kernel
  apply List.IsInfix.trans line
  apply infix_intercalate
  rcases hook?_eq_some hh with ⟨-, rfl⟩ | ⟨-, rfl⟩
  · simp [Strategy.queryHook, Hook.lines, Strategy.params]
  · simp [Strategy.mutationHook, Hook.lines, Strategy.params]

lemma head_of_mem_importedIdentifiers {documents : List Document} {x : String}
    (h : x ∈ importedIdentifiers documents) : ∃ c cs, x.toList = c :: cs ∧ c ≠ 'G' := by
  obtain ⟨o, -, hx⟩ := mem_importedIdentifiers.mp h
  cases hk : o.kind with
  | query =>
    simp only [hk, OperationKind.identifiers, List.mem_pair] at hx
    rcases hx with rfl | rfl <;> exact ⟨_, _, rfl, by decide⟩
  | mutation =>
    simp only [hk, OperationKind.identifiers, List.mem_pair] at hx
    rcases hx with rfl | rfl <;> exact ⟨_, _, rfl, by decide⟩
  | subscription => simp [hk, OperationKind.identifiers] at hx

/-- The import of hooks is not that of the client. -/
lemma ne_clientImport_of_mem_hookImportLine? {settings : Settings} {documents : List Document}
    {text : String} (h : text ∈ hookImportLine? settings documents) : text ≠ clientImport := by
  have bound : boundOperations documents ≠ [] :=
    isSome_hookImportLine?.mp (Option.isSome_iff_exists.mpr ⟨text, h⟩)
  obtain ⟨x, xs, hx⟩ := List.exists_cons_of_ne_nil (mt importedIdentifiers_eq_nil_iff.mp bound)
  have mem : x ∈ importedIdentifiers documents := by
    rw [hx]
    exact List.mem_cons_self
  obtain ⟨c, cs, hc, hG⟩ := head_of_mem_importedIdentifiers mem
  intro same
  have listed : ∃ r, (", ".intercalate (x :: xs)).toList = x.toList ++ r := by
    cases xs with
    | nil => exact ⟨[], by simp⟩
    | cons y ys =>
      rw [String.intercalate_cons_cons, String.toList_append, String.toList_append,
        List.append_assoc]
      exact ⟨_, rfl⟩
  obtain ⟨r, hr⟩ := listed
  have chars := congrArg String.toList (same ▸ text_of_mem_hookImportLine? h)
  rw [hx, clientImport, Mapper.importNamed, Mapper.importNamed] at chars
  simp only [String.toList_append, hr, hc, List.append_assoc] at chars
  have behind := List.append_cancel_left chars
  exact hG (Option.some.inj (congrArg List.head? behind)).symm

lemma ne_clientImport_of_mem_helper? {helper : String} (h : helper ∈ Strategy.client.helper?) :
    helper ≠ clientImport := by
  rw [← Option.some.inj h]
  decide +kernel

section Client

variable {settings : Settings} {documents : List Document}

/-- Without a query or a mutation there is nothing but the helper. -/
lemma prepend_client_of_unbound (unbound : boundOperations documents = []) :
    ((compilerFor settings .client documents.flatten).module documents.flatten).prepend =
      Strategy.client.helper?.toList := by
  rw [prepend_module, hookImportLine?, if_pos unbound, if_pos unbound]
  rfl

lemma prepend_client_of_bound (bound : boundOperations documents ≠ []) :
    ∃ rest,
      ((compilerFor settings .client documents.flatten).module documents.flatten).prepend =
        clientImport :: rest ∧ clientImport ∉ rest := by
  refine ⟨(hookImportLine? settings documents).toList ++ Strategy.client.helper?.toList, ?_, ?_⟩
  · rw [prepend_module, if_neg bound]
    rfl
  · intro h
    rcases List.mem_append.mp h with h | h
    · exact ne_clientImport_of_mem_hookImportLine? (Option.mem_toList.mp h) rfl
    · exact ne_clientImport_of_mem_helper? (Option.mem_toList.mp h) rfl

lemma clientImport_mem_prepend_iff :
    clientImport ∈
        ((compilerFor settings .client documents.flatten).module documents.flatten).prepend ↔
      boundOperations documents ≠ [] := by
  constructor
  · intro h unbound
    rw [prepend_client_of_unbound unbound] at h
    exact ne_clientImport_of_mem_helper? (Option.mem_toList.mp h) rfl
  · intro bound
    obtain ⟨rest, h, -⟩ := @prepend_client_of_bound settings documents bound
    rw [h]
    exact List.mem_cons_self

end Client

/-- A module for clients imports their type exactly if there is a query or a mutation, in front of
everything else and once. The helper of the module mentions the type in any case. -/
theorem client_imported_iff {options : Json} {documents : List Document} {settings : Settings}
    {m : GeneratedModule} (accepted : Decode.settings options = .accepted settings)
    (client : settings.fetcher = .client) (made : generate options documents = .ok m) :
    (∃ helper, m.prepend.getLast? = some helper ∧ MentionsClient helper) ∧
      (clientImport ∈ m.prepend ↔
        ∃ o ∈ operationsOf documents.flatten, o.kind ≠ .subscription) ∧
      (clientImport ∈ m.prepend →
        ∃ rest, m.prepend = clientImport :: rest ∧ clientImport ∉ rest) ∧
      ∀ b ∈ m.bindings, MentionsClient b.hook.text ∧ clientImport ∈ m.prepend := by
  obtain ⟨settings', s, hd, hs, -, rfl⟩ := generate_eq_ok_iff.mp made
  rw [accepted] at hd
  cases hd
  rw [client] at hs
  cases hs
  refine ⟨?_, ?_, ?_, ?_⟩
  · obtain ⟨helper, hh, mention⟩ := mentionsClient_helper
    refine ⟨helper, ?_, mention⟩
    rw [prepend_module, hh]
    exact List.getLast?_concat
  · rw [clientImport_mem_prepend_iff, boundOperations_ne_nil_iff]
  · intro h
    exact prepend_client_of_bound (clientImport_mem_prepend_iff.mp h)
  · intro b hb
    obtain ⟨i, hi⟩ := List.mem_iff_getElem?.mp hb
    obtain ⟨o, ho, bound⟩ :=
      forall₂_getElem? (bindings_image settings .client documents.flatten).flip hi
    refine ⟨mentionsClient_hook (binding?_eq_some bound).2.2, ?_⟩
    apply clientImport_mem_prepend_iff.mpr
    exact List.ne_nil_of_mem (List.mem_of_getElem? ho)

/-- Behind a subscription, a query brings the import. -/
theorem client_imported_iff_query :
    let documents : List Document := [[.operation (.bare .subscription none []),
      .operation (.bare .query (some ⟨'A', [], rfl, rfl⟩) [])]]
    ∃ m rest, generate (.obj [("fetcher", .str "graphql-request")]) documents = .ok m ∧
      m.prepend = clientImport :: rest ∧ clientImport ∉ rest := by
  intro documents
  obtain ⟨-, imported, first, -⟩ :=
    @client_imported_iff (.obj [("fetcher", .str "graphql-request")]) documents _ _ rfl rfl rfl
  have query : ∃ o ∈ operationsOf documents.flatten, o.kind ≠ .subscription :=
    ⟨.bare .query (some ⟨'A', [], rfl, rfl⟩) [],
      by simp [documents, operationsOf, Definition.operation?], by decide⟩
  obtain ⟨rest, h, once⟩ := first (imported.mpr query)
  exact ⟨_, rest, rfl, h, once⟩

/-- A module of fragments alone has a helper that mentions a type which it does not import. -/
theorem client_not_imported :
    let f : Fragment := ⟨none, ⟨'F', [], rfl, rfl⟩, ⟨'T', [], rfl, rfl⟩, [],
      [.leaf ⟨none, ⟨'a', [], rfl, rfl⟩, [], []⟩]⟩
    ∃ m helper, generate (.obj [("fetcher", .str "graphql-request")]) [[.fragment f]] = .ok m ∧
      helper ∈ m.prepend ∧ MentionsClient helper ∧ clientImport ∉ m.prepend := by
  intro f
  have unbound : boundOperations [[.fragment f]] = [] := rfl
  obtain ⟨helper, hh, mention⟩ := mentionsClient_helper
  refine ⟨(compilerFor { Settings.default with fetcher := .client } .client
    (List.flatten [[.fragment f]])).module (List.flatten [[.fragment f]]), helper, rfl, ?_, mention,
    fun h => clientImport_mem_prepend_iff.mp h unbound⟩
  rw [prepend_client_of_unbound unbound, hh]
  exact List.mem_singleton_self _

end OperationHooks
