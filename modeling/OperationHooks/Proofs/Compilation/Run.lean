import Mathlib.Data.List.Forall2
import Mathlib.Tactic.Common
import OperationHooks.GeneratedModule
import OperationHooks.Proofs.Compilation.Helper

/-!
# What a run records

One operation adds what it adds to the five parts of the state and touches nothing else; a whole
run is the fold of that over the operations of a document. Every query and every mutation gets one
binding, every subscription and every anonymous operation one diagnostic, in order.
-/

namespace OperationHooks

open Compiler

/-- The compiler of a run: settings, a strategy, and the fragments that both make known. -/
def compilerFor (settings : Settings) (s : Strategy) (document : Document) : Compiler :=
  ⟨settings, knownFragments settings document, some s⟩

/-- The module that a compiler makes of a document where its helper is written. -/
def Compiler.module (c : Compiler) (document : Document) : GeneratedModule :=
  c.assemble (c.strategy?.bind Strategy.helper?) document

/-- A module is generated exactly when options are accepted and name a strategy whose helper can be
written. -/
lemma generate_eq_ok_iff {options : Json} {documents : List Document} {m : GeneratedModule} :
    generate options documents = .ok m ↔
      ∃ settings s, Decode.settings options = .accepted settings ∧
        Strategy.ofFetcher settings.fetcher = .ok s ∧ s.IsWritable ∧
        m = (compilerFor settings s documents.flatten).module documents.flatten := by
  unfold generate
  cases hd : Decode.settings options with
  | refused rs => simp
  | accepted settings =>
    simp only [generateWith]
    cases hs : Strategy.ofFetcher settings.fetcher with
    | error e => simp [hs]
    | ok s =>
      by_cases writable : s.IsWritable
      · simp only [Strategy.writeHelper_of_isWritable writable]
        constructor
        · intro h
          cases h
          exact ⟨settings, s, rfl, hs, writable, rfl⟩
        · rintro ⟨settings', s', heq, hs', -, rfl⟩
          cases heq
          rw [hs] at hs'
          cases hs'
          rfl
      · simp only [Strategy.writeHelper_of_not_isWritable writable]
        constructor
        · intro h
          cases h
        · rintro ⟨settings', s', heq, hs', writable', -⟩
          cases heq
          rw [hs] at hs'
          cases hs'
          exact absurd writable' writable

/-- An operation without description, variables and directives. -/
def Operation.bare (kind : OperationKind) (name? : Option Name) (selections : List Selection) :
    Operation :=
  ⟨none, kind, name?, [], [], selections⟩

namespace Compiler

/-- The binding of an operation; a subscription has none. -/
def binding? (c : Compiler) (s : Strategy) (o : Operation) : Option Binding :=
  (c.hook? s o).map (c.binding o)

/-- What is recorded about an operation. -/
def diagnostic? (c : Compiler) (o : Operation) : Option Diagnostic :=
  (c.concern? o).map (⟨operationName o, ·⟩)

/-- The identifiers that the code emitted for an operation refers to. -/
def identifiersFor (c : Compiler) (s : Strategy) (o : Operation) : List String :=
  (c.hook? s o).toList.flatMap fun h => [h.names.hook, h.names.options]

/-- The statements that the code emitted for an operation asks for. -/
def importsFor (c : Compiler) (s : Strategy) (o : Operation) : List String :=
  (c.hook? s o).toList.flatMap fun _ => s.imports

variable {c : Compiler} {s : Strategy}

/-! ### One operation -/

/-- All that one operation does to the state. -/
lemma compileOperation_eq (hs : c.strategy? = some s) (st : RunState) (o : Operation) :
    c.compileOperation st o =
      { identifiers := addNew st.identifiers (c.identifiersFor s o)
        imports := addNew st.imports (c.importsFor s o)
        bindings := st.bindings ++ (c.binding? s o).toList
        diagnostics := st.diagnostics ++ (c.diagnostic? o).toList
        operationCount := st.operationCount + 1 } := by
  simp only [compileOperation, hs, binding?, diagnostic?, identifiersFor, importsFor]
  cases c.concern? o <;> cases c.hook? s o <;>
    simp [RunState.bind, RunState.noteHook, RunState.useIdentifiers, RunState.addImports,
      RunState.warn, addNew]

lemma hook?_eq_none {o : Operation} (ho : o.kind = .subscription) : c.hook? s o = none := by
  simp [hook?, ho]

lemma hook?_eq_some {o : Operation} {h : Hook} (hh : c.hook? s o = some h) :
    o.kind = .query ∧ h = s.queryHook c.hooks (c.summarize o) ∨
      o.kind = .mutation ∧ h = s.mutationHook c.hooks (c.summarize o) := by
  rw [hook?] at hh
  split at hh
  · next kind => exact .inl ⟨kind, (Option.some.inj hh).symm⟩
  · next kind => exact .inr ⟨kind, (Option.some.inj hh).symm⟩
  · cases hh

/-- A subscription is counted and reported; nothing is imported or bound for it. -/
lemma compileOperation_subscription (hs : c.strategy? = some s) (st : RunState) {o : Operation}
    (ho : o.kind = .subscription) :
    (c.compileOperation st o).identifiers = st.identifiers ∧
      (c.compileOperation st o).imports = st.imports ∧
      (c.compileOperation st o).bindings = st.bindings := by
  have hn : c.hook? s o = none := hook?_eq_none ho
  simp [compileOperation_eq hs, identifiersFor, importsFor, binding?, hn, addNew]

/-- What a binding is made of. -/
lemma binding?_eq_some {o : Operation} {b : Binding} (h : c.binding? s o = some b) :
    b.document = c.documentConstant (c.documentName o) (.operation o) ∧
      b.hook.operation = c.summarize o ∧ c.hook? s o = some b.hook := by
  obtain ⟨hook, hh, rfl⟩ := Option.map_eq_some_iff.mp h
  refine ⟨rfl, ?_, hh⟩
  rcases hook?_eq_some hh with ⟨-, rfl⟩ | ⟨-, rfl⟩
  · rfl
  · rfl

/-! ### A whole run -/

lemma operationCount_foldl (hs : c.strategy? = some s) (st : RunState) (ops : List Operation) :
    (ops.foldl c.compileOperation st).operationCount = st.operationCount + ops.length := by
  induction ops generalizing st with
  | nil => simp
  | cons o ops ih =>
    rw [List.foldl_cons, ih, compileOperation_eq hs, List.length_cons]
    dsimp only
    omega

lemma bindings_foldl (hs : c.strategy? = some s) (st : RunState) (ops : List Operation) :
    (ops.foldl c.compileOperation st).bindings = st.bindings ++ ops.filterMap (c.binding? s) := by
  induction ops generalizing st with
  | nil => simp
  | cons o ops ih =>
    rw [List.foldl_cons, ih, compileOperation_eq hs, List.append_assoc]
    cases h : c.binding? s o <;> simp [h]

lemma diagnostics_foldl (hs : c.strategy? = some s) (st : RunState) (ops : List Operation) :
    (ops.foldl c.compileOperation st).diagnostics =
      st.diagnostics ++ ops.filterMap c.diagnostic? := by
  induction ops generalizing st with
  | nil => simp
  | cons o ops ih =>
    rw [List.foldl_cons, ih, compileOperation_eq hs, List.append_assoc]
    cases h : c.diagnostic? o <;> simp [h]

lemma fragments_module (c : Compiler) (document : Document) :
    (c.module document).fragments = c.fragmentConstants := rfl

/-- The bindings of a module are those of its operations. -/
lemma bindings_module (settings : Settings) (s : Strategy) (document : Document) :
    ((compilerFor settings s document).module document).bindings =
      (operationsOf document).filterMap ((compilerFor settings s document).binding? s) :=
  bindings_foldl (s := s) rfl RunState.empty _

/-- The diagnostics of a module are those of its operations. -/
lemma diagnostics_module (settings : Settings) (s : Strategy) (document : Document) :
    ((compilerFor settings s document).module document).diagnostics =
      (operationsOf document).filterMap (compilerFor settings s document).diagnostic? :=
  diagnostics_foldl (s := s) rfl RunState.empty _

/-! ### Which operations leave something -/

lemma binding?_isSome (c : Compiler) (s : Strategy) (o : Operation) :
    (c.binding? s o).isSome = decide (o.kind ≠ .subscription) := by
  cases h : o.kind <;> simp [binding?, hook?, h]

lemma diagnostic?_isSome (c : Compiler) (o : Operation) :
    (c.diagnostic? o).isSome = decide (o.kind = .subscription ∨ o.name? = none) := by
  cases hk : o.kind <;> cases hn : o.name? <;> simp [diagnostic?, concern?, hk, hn]

end Compiler

/-- A partial image, in order, of exactly the members that have one. -/
lemma forall₂_filterMap {α β : Type} (f : α → Option β) (p : α → Bool)
    (hp : ∀ x, (f x).isSome = p x) (xs : List α) :
    List.Forall₂ (fun x y => f x = some y) (xs.filter p) (xs.filterMap f) := by
  induction xs with
  | nil => exact .nil
  | cons x xs ih =>
    have hx := hp x
    cases h : f x with
    | none =>
      rw [h, Option.isSome_none] at hx
      simpa [h, ← hx] using ih
    | some y =>
      rw [h, Option.isSome_some] at hx
      simpa [h, ← hx] using ih

/-- Each query and each mutation has its binding, in order. -/
lemma bindings_image (settings : Settings) (s : Strategy) (document : Document) :
    List.Forall₂ (fun o b => (compilerFor settings s document).binding? s o = some b)
      ((operationsOf document).filter fun o => o.kind ≠ .subscription)
      ((compilerFor settings s document).module document).bindings := by
  rw [bindings_module]
  exact forall₂_filterMap _ _ (binding?_isSome _ s) _

/-- Each subscription and each anonymous operation has its diagnostic, in order. -/
lemma diagnostics_image (settings : Settings) (s : Strategy) (document : Document) :
    List.Forall₂ (fun o d => (compilerFor settings s document).diagnostic? o = some d)
      ((operationsOf document).filter fun o => o.kind = .subscription ∨ o.name? = none)
      ((compilerFor settings s document).module document).diagnostics := by
  rw [diagnostics_module]
  exact forall₂_filterMap _ _ (diagnostic?_isSome _) _

/-- Every operation is accounted for once, whatever kinds are mixed in whatever documents: all of
them are counted, queries and mutations are bound in order, subscriptions and anonymous operations
are reported in order, and a subscription leaves no trace in what is emitted. -/
theorem operations_accounted_for {options : Json} {documents : List Document}
    {m : GeneratedModule} (made : generate options documents = .ok m) :
    ∃ settings s, Decode.settings options = .accepted settings ∧
      Strategy.ofFetcher settings.fetcher = .ok s ∧
      let c := compilerFor settings s documents.flatten
      let ops := operationsOf documents.flatten
      let st := c.compile .empty documents.flatten
      m.bindings = st.bindings ∧ m.diagnostics = st.diagnostics ∧
      st.operationCount = ops.length ∧
      List.Forall₂ (fun o b => c.binding? s o = some b)
        (ops.filter fun o => o.kind ≠ .subscription) st.bindings ∧
      List.Forall₂ (fun o d => d.operation = (o.name?.map Name.text).getD "" ∧
          c.concern? o = some d.concern)
        (ops.filter fun o => o.kind = .subscription ∨ o.name? = none) st.diagnostics ∧
      ∀ st o, o.kind = .subscription →
        (c.compileOperation st o).identifiers = st.identifiers ∧
        (c.compileOperation st o).imports = st.imports ∧
        (c.compileOperation st o).bindings = st.bindings := by
  obtain ⟨settings, s, hd, hs, -, rfl⟩ := generate_eq_ok_iff.mp made
  refine ⟨settings, s, hd, hs, rfl, rfl, ?_, ?_, ?_, fun st o ho => ?_⟩
  · simpa [compile, RunState.empty] using operationCount_foldl (s := s) rfl RunState.empty _
  · exact bindings_image settings s documents.flatten
  · refine (diagnostics_image settings s documents.flatten).imp fun o d h => ?_
    obtain ⟨concern, hc, rfl⟩ := Option.map_eq_some_iff.mp h
    exact ⟨rfl, hc⟩
  · exact compileOperation_subscription (s := s) rfl st ho

/-- All kinds of operations over two documents: two of the four are bound and three reported. -/
theorem operations_accounted_for_mixed :
    ∃ m, generate .null
        [[.operation (.bare .query (some ⟨'A', [], rfl, rfl⟩) []),
          .operation (.bare .subscription (some ⟨'S', [], rfl, rfl⟩) [])],
         [.operation (.bare .mutation none []), .operation (.bare .subscription none [])]] = .ok m ∧
      m.bindings.length = 2 ∧ m.diagnostics.length = 3 := by
  refine ⟨_, rfl, ?_⟩
  obtain ⟨settings, s, -, -, hb, hg, -, bound, reported, -⟩ :=
    @operations_accounted_for .null
      [[.operation (.bare .query (some ⟨'A', [], rfl, rfl⟩) []),
          .operation (.bare .subscription (some ⟨'S', [], rfl, rfl⟩) [])],
         [.operation (.bare .mutation none []), .operation (.bare .subscription none [])]] _ rfl
  rw [hb, hg]
  exact ⟨bound.length_eq.symm, reported.length_eq.symm⟩

end OperationHooks
