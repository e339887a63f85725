import OperationHooks.Proofs.Compilation.Imports

/-!
# Sessions

A compiler can be used step by step: documents are visited one after the other, and identifiers or
statements are recorded in between. Whatever the steps are, the state only grows at its ends, what
is recorded is kept without repetition by first occurrence, and it does not matter how definitions
are spread over documents.
-/

namespace OperationHooks

/-- What can be done to the state of a run. -/
inductive Action where
  | visit (document : Document)
  | useIdentifiers (names : List String)
  | addImport (statement : String)

/-- A state goes on from an earlier one: nothing is lost or moved. -/
structure RunState.Grows (st st' : RunState) : Prop where
  identifiers : st.identifiers <+: st'.identifiers
  imports : st.imports <+: st'.imports
  bindings : st.bindings <+: st'.bindings
  diagnostics : st.diagnostics <+: st'.diagnostics

lemma RunState.Grows.refl (st : RunState) : st.Grows st where
  identifiers := List.prefix_rfl
  imports := List.prefix_rfl
  bindings := List.prefix_rfl
  diagnostics := List.prefix_rfl

lemma RunState.Grows.trans {st st' st'' : RunState} (h : st.Grows st') (h' : st'.Grows st'') :
    st.Grows st'' where
  identifiers := h.identifiers.trans h'.identifiers
  imports := h.imports.trans h'.imports
  bindings := h.bindings.trans h'.bindings
  diagnostics := h.diagnostics.trans h'.diagnostics

/-- Growth at each step is growth over all of them. -/
lemma RunState.grows_foldl {α : Type} {step : RunState → α → RunState}
    (h : ∀ (st : RunState) (x : α), st.Grows (step st x)) (st : RunState) (xs : List α) :
    st.Grows (xs.foldl step st) := by
  induction xs generalizing st with
  | nil => exact .refl st
  | cons x xs ih => exact (h st x).trans (ih _)

lemma prefix_addNew (known new : List String) : known <+: addNew known new := by
  induction new generalizing known with
  | nil => exact List.prefix_rfl
  | cons x new ih =>
    rw [addNew, List.foldl_cons, ← addNew]
    refine List.IsPrefix.trans ?_ (ih _)
    split
    · exact List.prefix_rfl
    · exact List.prefix_append _ _

namespace Compiler

variable {c : Compiler}

/-- One action. -/
def act (c : Compiler) (st : RunState) : Action → RunState
  | .visit document => c.compile st document
  | .useIdentifiers names => st.useIdentifiers names
  | .addImport statement => st.addImports [statement]

/-- The state after actions. -/
def session (c : Compiler) (st : RunState) (actions : List Action) : RunState :=
  actions.foldl c.act st

/-- The identifiers that an action records, one by one. -/
def identifiersOf (c : Compiler) : Action → List String
  | .visit document =>
    (operationsOf document).flatMap fun o => c.strategy?.toList.flatMap (c.identifiersFor · o)
  | .useIdentifiers names => names
  | .addImport _ => []

/-- The statements that an action records, one by one. -/
def importsOf (c : Compiler) : Action → List String
  | .visit document =>
    (operationsOf document).flatMap fun o => c.strategy?.toList.flatMap (c.importsFor · o)
  | .useIdentifiers _ => []
  | .addImport statement => [statement]

/-! ### One step -/

/-- Without a strategy an operation is counted, and that is all. -/
lemma compileOperation_of_none (h : c.strategy? = none) (st : RunState) (o : Operation) :
    c.compileOperation st o = { st with operationCount := st.operationCount + 1 } := by
  rw [compileOperation, h]

lemma identifiers_compileOperation (st : RunState) (o : Operation) :
    (c.compileOperation st o).identifiers =
      addNew st.identifiers (c.strategy?.toList.flatMap (c.identifiersFor · o)) := by
  cases h : c.strategy? with
  | none => rw [compileOperation_of_none h]; rfl
  | some s => rw [compileOperation_eq h]; simp

lemma imports_compileOperation (st : RunState) (o : Operation) :
    (c.compileOperation st o).imports =
      addNew st.imports (c.strategy?.toList.flatMap (c.importsFor · o)) := by
  cases h : c.strategy? with
  | none => rw [compileOperation_of_none h]; rfl
  | some s => rw [compileOperation_eq h]; simp

lemma identifiers_act (st : RunState) (a : Action) :
    (c.act st a).identifiers = addNew st.identifiers (c.identifiersOf a) := by
  cases a with
  | visit document => exact recorded_foldl RunState.identifiers identifiers_compileOperation st _
  | useIdentifiers names => rfl
  | addImport statement => rfl

lemma imports_act (st : RunState) (a : Action) :
    (c.act st a).imports = addNew st.imports (c.importsOf a) := by
  cases a with
  | visit document => exact recorded_foldl RunState.imports imports_compileOperation st _
  | useIdentifiers names => rfl
  | addImport statement => rfl

lemma grows_compileOperation (st : RunState) (o : Operation) :
    st.Grows (c.compileOperation st o) := by
  cases h : c.strategy? with
  | none =>
    rw [compileOperation_of_none h]
    exact ⟨List.prefix_rfl, List.prefix_rfl, List.prefix_rfl, List.prefix_rfl⟩
  | some s =>
    rw [compileOperation_eq h]
    exact ⟨prefix_addNew _ _, prefix_addNew _ _, List.prefix_append _ _, List.prefix_append _ _⟩

lemma grows_act (st : RunState) (a : Action) : st.Grows (c.act st a) := by
  cases a with
  | visit document => exact RunState.grows_foldl grows_compileOperation st _
  | useIdentifiers names =>
    exact { RunState.Grows.refl st with identifiers := prefix_addNew _ _ }
  | addImport statement => exact { RunState.Grows.refl st with imports := prefix_addNew _ _ }

/-! ### Sessions -/

lemma identifiers_session (c : Compiler) (actions : List Action) :
    (c.session .empty actions).identifiers = (actions.flatMap c.identifiersOf).eraseDups :=
  (recorded_foldl RunState.identifiers identifiers_act _ actions).trans (addNew_eraseDups [] _)

lemma imports_session (c : Compiler) (actions : List Action) :
    (c.session .empty actions).imports = (actions.flatMap c.importsOf).eraseDups :=
  (recorded_foldl RunState.imports imports_act _ actions).trans (addNew_eraseDups [] _)

/-- Documents that are visited one after the other are visited as one. -/
lemma compile_append (c : Compiler) (st : RunState) (d₁ d₂ : Document) :
    c.compile st (d₁ ++ d₂) = c.compile (c.compile st d₁) d₂ := by
  rw [compile, compile, compile, operationsOf, List.filterMap_append, List.foldl_append]
  rfl

/-- The state of a session, after any steps: identifiers and imports are everything recorded so
far, without repetition, by first occurrence; each further step leaves what is there as it is and
adds behind it; and visiting a document in two parts is visiting it as a whole. -/
theorem session_append_only (c : Compiler) (actions : List Action) :
    let st := c.session .empty actions
    st.identifiers.Nodup ∧ st.imports.Nodup ∧
      st.identifiers = (actions.flatMap c.identifiersOf).eraseDups ∧
      st.imports = (actions.flatMap c.importsOf).eraseDups ∧
      (∀ a, st.Grows (c.act st a)) ∧
      ∀ d₁ d₂, c.act (c.act st (.visit d₁)) (.visit d₂) = c.act st (.visit (d₁ ++ d₂)) := by
  intro st
  have identifiers := identifiers_session c actions
  have imports := imports_session c actions
  refine ⟨?_, ?_, identifiers, imports, grows_act st, fun d₁ d₂ => ?_⟩
  · exact identifiers ▸ nodup_eraseDups _
  · exact imports ▸ nodup_eraseDups _
  · exact (compile_append c st d₁ d₂).symm

end Compiler

end OperationHooks
