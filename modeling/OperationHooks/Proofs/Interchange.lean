import OperationHooks.Proofs.Compilation.Imports
import OperationHooks.Proofs.SentDocument
import OperationHooks.Proofs.Settings.Options

/-!
# Ways of fetching are interchangeable

All that a strategy contributes to a binding are the parameters its hook takes first and the
expression that fetches. Everything around these two is a function of the operation and of the
settings that do not speak of fetching, and so is everything else that a run comes to, but for the
helper and the statements that the strategy brings along.
-/

namespace OperationHooks

open Compiler Decode

/-! ### The frame of a hook -/

namespace Hook

/-- The lines of a hook up to its parameters. -/
def opening : Hook → List String
  | .query op _ _ _ =>
    ["export const " ++ op.hookName ++ " = <",
      "      TData = " ++ op.resultType ++ ",",
      "      TError = unknown",
      "    >("]
  | .mutation op _ _ _ =>
    ["export const " ++ op.hookName ++ " = <",
      "      TError = unknown,",
      "      TContext = unknown",
      "    >("]

/-- The lines from the common parameters on, up to the expression that fetches. The first of them
is the parameter for the variables of a query, and that for the options of a mutation. -/
def signature : Hook → List String
  | .query op names _ _ =>
    [paramLine op.queryVariables,
      "      options?: " ++ names.options ++ queryTypes op,
      "    ) =>",
      "    " ++ names.hook ++ queryTypes op ++ "(",
      "      " ++ op.queryKey ++ ","]
  | .mutation op names _ _ =>
    ["      options?: " ++ names.options ++ mutationTypes op,
      "    ) =>",
      "    " ++ names.hook ++ mutationTypes op ++ "("]

/-- The lines behind the expression that fetches. -/
def closing : List String := ["      options", "    );"]

/-- The lines of a hook with other parameters before the common ones, and another expression that
fetches. -/
def linesWith (h : Hook) (params : List String) (fetch : String) : List String :=
  h.opening ++ params.map paramLine ++ h.signature ++ ["      " ++ fetch ++ ","] ++ closing

/-- The parameters of a hook before the common ones. -/
def params : Hook → List String
  | .query _ _ ps _ => ps
  | .mutation _ _ ps _ => ps

lemma lines_eq_linesWith (h : Hook) : h.lines = h.linesWith h.params h.fetch := by
  cases h with
  | query => simp [lines, linesWith, opening, params, signature, fetch, closing]
  | mutation => simp [lines, linesWith, opening, params, signature, fetch, closing]

end Hook

/-- The expression with which an operation is fetched: the call for a query, the function for a
mutation. -/
def Strategy.fetchOf (s : Strategy) (op : OperationSummary) : String :=
  if op.kind = .query then s.call op else s.mutationFunction op

/-- The text that a binding has if a strategy fetches for it. -/
def Binding.textWith (b : Binding) (s : Strategy) : String :=
  "\n".intercalate ([b.document.text]
    ++ b.hook.linesWith s.params (s.fetchOf b.hook.operation)
    ++ if b.exposesKey then [Hook.keyAccessor b.hook.operation] else [])

/-- Bindings of one operation under two strategies: they agree in all but what the strategies
contribute to the hook. -/
structure Binding.Counterparts (s₁ s₂ : Strategy) (b₁ b₂ : Binding) : Prop where
  document : b₁.document = b₂.document
  operation : b₁.hook.operation = b₂.hook.operation
  names : b₁.hook.names = b₂.hook.names
  exposesKey : b₁.exposesKey = b₂.exposesKey
  text₁ : b₁.text = b₁.textWith s₁
  text₂ : b₂.text = b₁.textWith s₂

lemma Binding.text_eq (b : Binding) :
    b.text = "\n".intercalate ([b.document.text] ++ b.hook.lines
      ++ if b.exposesKey then [Hook.keyAccessor b.hook.operation] else []) := by
  have some_line : b.hook.lines ≠ [] := by
    cases b.hook <;> simp [Hook.lines]
  cases h : b.exposesKey with
  | false =>
    have blocks := @intercalate_flatten "\n" [[b.document.text], b.hook.lines] (by simp [some_line])
    simpa [Binding.text, Hook.text, h] using blocks
  | true =>
    have blocks := @intercalate_flatten "\n"
      [[b.document.text], b.hook.lines, [Hook.keyAccessor b.hook.operation]] (by simp [some_line])
    simpa [Binding.text, Hook.text, h] using blocks

lemma Binding.text_eq_textWith {b : Binding} {s : Strategy} (params : b.hook.params = s.params)
    (fetch : b.hook.fetch = s.fetchOf b.hook.operation) : b.text = b.textWith s := by
  rw [Binding.text_eq, Hook.lines_eq_linesWith, params, fetch, Binding.textWith]

/-! ### One operation under two strategies -/

/-- The hook of a query or a mutation holds what its strategy contributes. -/
lemma text_of_binding? {c : Compiler} {s : Strategy} {o : Operation} {b : Binding}
    (h : c.binding? s o = some b) : b.text = b.textWith s := by
  obtain ⟨hook, hh, rfl⟩ := Option.map_eq_some_iff.mp h
  rcases hook?_eq_some hh with ⟨kind, rfl⟩ | ⟨kind, rfl⟩
  · have fetch : s.fetchOf (c.summarize o) = s.call (c.summarize o) := if_pos kind
    exact Binding.text_eq_textWith rfl fetch.symm
  · have other : (c.summarize o).kind ≠ .query := by
      change o.kind ≠ .query
      simp [kind]
    have fetch : s.fetchOf (c.summarize o) = s.mutationFunction (c.summarize o) := if_neg other
    exact Binding.text_eq_textWith rfl fetch.symm

/-- Compilers of one document whose settings differ in the fetcher alone bind an operation to
counterparts. -/
lemma counterparts_of_binding? {settings : Settings} {f : Fetcher} {s₁ s₂ : Strategy}
    {document : Document} {o : Operation} {b₁ b₂ : Binding}
    (h₁ : (compilerFor settings s₁ document).binding? s₁ o = some b₁)
    (h₂ : (compilerFor { settings with fetcher := f } s₂ document).binding? s₂ o = some b₂) :
    Binding.Counterparts s₁ s₂ b₁ b₂ := by
  have text₁ := text_of_binding? h₁
  have text₂ := text_of_binding? h₂
  obtain ⟨k₁, hk₁, rfl⟩ := Option.map_eq_some_iff.mp h₁
  obtain ⟨k₂, hk₂, rfl⟩ := Option.map_eq_some_iff.mp h₂
  rcases hook?_eq_some hk₁ with ⟨kind₁, rfl⟩ | ⟨kind₁, rfl⟩ <;>
    rcases hook?_eq_some hk₂ with ⟨kind₂, rfl⟩ | ⟨kind₂, rfl⟩
  -- one operation has one kind, so both hooks are of one shape
  · exact ⟨rfl, rfl, rfl, rfl, text₁, text₂⟩
  · simp [kind₁] at kind₂
  · simp [kind₁] at kind₂
  · exact ⟨rfl, rfl, rfl, rfl, text₁, text₂⟩

/-! ### Whole runs -/

lemma forall₂_of_common {α β γ : Type} {R : α → β → Prop} {S : α → γ → Prop} {T : β → γ → Prop}
    (h : ∀ x y z, R x y → S x z → T y z) {xs : List α} {ys : List β} {zs : List γ}
    (hy : List.Forall₂ R xs ys) (hz : List.Forall₂ S xs zs) : List.Forall₂ T ys zs := by
  induction hy generalizing zs with
  | nil =>
    cases hz
    exact .nil
  | cons hxy _ ih =>
    cases hz with
    | cons hxz rest => exact .cons (h _ _ _ hxy hxz) (ih rest)

/-- Counterparts stand at the same places. -/
lemma counterparts_module (settings : Settings) (f : Fetcher) (s₁ s₂ : Strategy)
    (document : Document) :
    List.Forall₂ (Binding.Counterparts s₁ s₂)
      ((compilerFor settings s₁ document).module document).bindings
      ((compilerFor { settings with fetcher := f } s₂ document).module document).bindings := by
  have image₁ := bindings_image settings s₁ document
  have image₂ := bindings_image { settings with fetcher := f } s₂ document
  apply forall₂_of_common _ image₁ image₂
  intro o b₁ b₂ h₁ h₂
  exact counterparts_of_binding? h₁ h₂

/-- Under options that differ in the fetcher alone the same is generated, but for fetching: the
same diagnostics and constants of fragments, the same import of hooks, and binding by binding the
same text around the parameters and the expression that each strategy contributes. -/
theorem strategies_interchangeable {options₁ options₂ : Json} {documents : List Document}
    {m₁ m₂ : GeneratedModule} (made₁ : generate options₁ documents = .ok m₁)
    (made₂ : generate options₂ documents = .ok m₂) :
    ∃ settings₁ settings₂ s₁ s₂,
      Decode.settings options₁ = .accepted settings₁ ∧
      Strategy.ofFetcher settings₁.fetcher = .ok s₁ ∧
      Decode.settings options₂ = .accepted settings₂ ∧
      Strategy.ofFetcher settings₂.fetcher = .ok s₂ ∧
      (AgreeBeside ["fetcher"] options₁ options₂ →
        settings₂ = { settings₁ with fetcher := settings₂.fetcher }) ∧
      (settings₂ = { settings₁ with fetcher := settings₂.fetcher } →
        m₁.diagnostics = m₂.diagnostics ∧ m₁.fragments = m₂.fragments ∧
        m₁.prepend = (if boundOperations documents = [] then [] else s₁.imports)
          ++ (hookImportLine? settings₁ documents).toList ++ s₁.helper?.toList ∧
        m₂.prepend = (if boundOperations documents = [] then [] else s₂.imports)
          ++ (hookImportLine? settings₁ documents).toList ++ s₂.helper?.toList ∧
        List.Forall₂ (Binding.Counterparts s₁ s₂) m₁.bindings m₂.bindings) := by
  obtain ⟨settings₁, s₁, hd₁, hs₁, -, rfl⟩ := generate_eq_ok_iff.mp made₁
  obtain ⟨settings₂, s₂, hd₂, hs₂, -, rfl⟩ := generate_eq_ok_iff.mp made₂
  refine ⟨settings₁, settings₂, s₁, s₂, hd₁, hs₁, hd₂, hs₂, ?_, ?_⟩
  · intro agree
    exact settings_beside_fetcher agree hd₁ hd₂
  · intro beside
    rw [beside]
    refine ⟨?_, rfl, prepend_module _ _ _, prepend_module _ _ _, counterparts_module _ _ _ _ _⟩
    rw [diagnostics_module, diagnostics_module]
    rfl

/-- An eager function against a lazy one: what is bound differs in the function of the mutation. -/
theorem strategies_interchangeable_lazy :
    let documents : List Document := [[.operation (.bare .query (some ⟨'A', [], rfl, rfl⟩) []),
      .operation (.bare .mutation (some ⟨'B', [], rfl, rfl⟩) [])]]
    let isLazy : Json := .obj [("func", .str "f"), ("lazyVariables", .bool true)]
    ∃ m₁ m₂ query₁ query₂ mutation₁ mutation₂,
      generate (.obj [("fetcher", .str "f")]) documents = .ok m₁ ∧
      generate (.obj [("fetcher", isLazy)]) documents = .ok m₂ ∧
      m₁.bindings = [query₁, mutation₁] ∧ m₂.bindings = [query₂, mutation₂] ∧
      m₁.prepend = m₂.prepend ∧ query₁.text = query₂.text ∧
      mutation₁.text = mutation₁.textWith (.mapped (.local "f") false) ∧
      mutation₂.text = mutation₁.textWith (.mapped (.local "f") true) := by
  intro documents isLazy
  obtain ⟨settings₁, settings₂, s₁, s₂, hd₁, hs₁, hd₂, hs₂, beside, alike⟩ :=
    @strategies_interchangeable (.obj [("fetcher", .str "f")]) (.obj [("fetcher", isLazy)])
      documents _ _ rfl rfl
  cases hd₁
  cases hs₁
  cases hd₂
  cases hs₂
  have agree : AgreeBeside ["fetcher"] (.obj [("fetcher", .str "f")])
      (.obj [("fetcher", isLazy)]) := by
    intro key hk
    have other : "fetcher" ≠ key := by
      rintro rfl
      exact hk List.mem_cons_self
    simp [members, lookupMember, other]
  obtain ⟨-, -, prepend₁, prepend₂, bindings⟩ := alike (beside agree)
  cases bindings with
  | cons query rest =>
    cases rest with
    | cons mutation rest =>
      cases rest
      exact ⟨_, _, _, _, _, _, rfl, rfl, rfl, rfl, prepend₁.trans prepend₂.symm,
        query.text₁.trans query.text₂.symm, mutation.text₁, mutation.text₂⟩

end OperationHooks
