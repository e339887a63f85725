import OperationHooks.Proofs.Compilation.Locality
import OperationHooks.Proofs.ConstantValues
import OperationHooks.Proofs.GraphQL.Printing

/-!
# The documents that are sent

What a hook sends is the value of a constant. That value is made of the tokens of the operation and
of the tokens of the fragments that it spreads, directly or through others, each of them once. It
does not matter how fragments spread one another, nor what stands in strings.
-/

namespace OperationHooks

open Compiler TypeScript

/-! ### What is to be sent -/

/-- A fragment at the end of a chain of spreads. A name means the last fragment that a document
defines under it. -/
inductive SpreadBy (document : Document) (spreads : List String) : Fragment → Prop where
  | spread {f : Fragment} (hn : f.name.text ∈ spreads)
    (hf : fragmentNamed? document f.name.text = some f) : SpreadBy document spreads f
  | step {f g : Fragment} (h : SpreadBy document spreads f) (hn : g.name.text ∈ f.spreads)
    (hg : fragmentNamed? document g.name.text = some g) : SpreadBy document spreads g

/-- No chain of spreads leads to a fragment that is external and not defined by the document. -/
def ReachesNoExternal (settings : Settings) (document : Document) (spreads : List String) : Prop :=
  ∀ n, (n ∈ spreads ∨ ∃ f, SpreadBy document spreads f ∧ n ∈ f.spreads) →
    n ∈ settings.externalFragments.map (·.name) → (fragmentNamed? document n).isSome

/-- The call or the function in a hook that fetches. -/
def Hook.fetch : Hook → String
  | .query _ _ _ call => call
  | .mutation _ _ _ function => function

/-- A hook passes a constant to the function that fetches. -/
def PassesConstant (s : Strategy) (h : Hook) (constant : String) : Prop :=
  "      " ++ h.fetch ++ "," ∈ h.lines ∧
    ∃ before arguments rest after, h.fetch =
      before ++ h.operation.typed s.functionName ++ "("
        ++ ", ".intercalate (arguments ++ constant :: rest) ++ ")" ++ after

/-- A constant evaluates to a text of the tokens of an operation and of the fragments that it
spreads, in the order of `transitive`. -/
def SendsTokens (settings : Settings) (document : Document) (m : GeneratedModule)
    (constant : String) (o : Operation) : Prop :=
  ∃ text ts fs tss, (evaluate m.statements).lookup constant = some text ∧
    tokens? text = some (ts ++ List.flatten tss) ∧ tokens? o.text.toList = some ts ∧
    List.Forall₂ (fun (f : Fragment) us => tokens? f.text.toList = some us) fs tss ∧
    fs.map (·.name.text) = (knownFragments settings document).transitive o.spreads ∧
    (fs.map (·.name.text)).Nodup ∧ ∀ f, f ∈ fs ↔ SpreadBy document o.spreads f

/-! ### Chains of spreads -/

section chains

variable {settings : Settings} {document : Document} {spreads : List String}

lemma SpreadBy.named {f : Fragment} (h : SpreadBy document spreads f) :
    fragmentNamed? document f.name.text = some f := by
  cases h with
  | spread _ hf => exact hf
  | step _ _ hg => exact hg

lemma SpreadBy.reaches {f : Fragment} (h : SpreadBy document spreads f) :
    (knownFragments settings document).Reaches spreads f.name.text := by
  have known {f : Fragment} (hf : fragmentNamed? document f.name.text = some f) :
      f.name.text ∈ (knownFragments settings document).names := by
    apply FragmentLibrary.mem_names_knownFragments.mpr
    exact .inr ⟨f, (mem_of_fragmentNamed? hf).1, rfl⟩
  induction h with
  | spread hn hf => exact .spread hn (known hf)
  | step h hn hg ih =>
    refine .step ih ?_ (known hg)
    rw [FragmentLibrary.dependencies_knownFragments, h.named]
    exact hn

/-- Where no external fragment is reached, known names are reached by chains of fragments. -/
lemma exists_spreadBy (inside : ReachesNoExternal settings document spreads) {n : String}
    (h : (knownFragments settings document).Reaches spreads n) :
    ∃ f, SpreadBy document spreads f ∧ f.name.text = n := by
  have defined {n : String} (known : n ∈ (knownFragments settings document).names)
      (mention : n ∈ spreads ∨ ∃ f, SpreadBy document spreads f ∧ n ∈ f.spreads) :
      ∃ f, fragmentNamed? document f.name.text = some f ∧ f.name.text = n := by
    have isSome : (fragmentNamed? document n).isSome := by
      rcases FragmentLibrary.mem_names_knownFragments.mp known with external | defined
      · exact inside n mention external
      · exact fragmentNamed?_isSome.mpr defined
    obtain ⟨f, hf⟩ := Option.isSome_iff_exists.mp isSome
    have name := (mem_of_fragmentNamed? hf).2
    exact ⟨f, by rw [name, hf], name⟩
  induction h with
  | spread hn known =>
    obtain ⟨f, hf, rfl⟩ := defined known (.inl hn)
    exact ⟨f, .spread hn hf, rfl⟩
  | step _ hn known ih =>
    obtain ⟨f, hf, rfl⟩ := ih
    rw [FragmentLibrary.dependencies_knownFragments, hf.named] at hn
    obtain ⟨g, hg, rfl⟩ := defined known (.inr ⟨f, hf, hn⟩)
    exact ⟨g, .step hf hn hg, rfl⟩

lemma exists_fragments {ns : List String}
    (h : ∀ n ∈ ns, ∃ f, fragmentNamed? document f.name.text = some f ∧ f.name.text = n) :
    ∃ fs : List Fragment, fs.map (·.name.text) = ns ∧
      ∀ f ∈ fs, fragmentNamed? document f.name.text = some f := by
  induction ns with
  | nil => exact ⟨[], rfl, by simp⟩
  | cons n ns ih =>
    obtain ⟨f, hf, hn⟩ := h n List.mem_cons_self
    obtain ⟨fs, hm, hfs⟩ := ih fun n hn => h n (List.mem_cons_of_mem _ hn)
    refine ⟨f :: fs, by rw [List.map_cons, hn, hm], ?_⟩
    intro g hg
    rcases List.mem_cons.mp hg with rfl | hg
    · exact hf
    · exact hfs g hg

/-- The names that are sent are those of the fragments at the ends of chains. -/
lemma fragments_transitive (inside : ReachesNoExternal settings document spreads) :
    ∃ fs : List Fragment,
      fs.map (·.name.text) = (knownFragments settings document).transitive spreads ∧
      ∀ f, f ∈ fs ↔ SpreadBy document spreads f := by
  have reached {n : String} (hn : n ∈ (knownFragments settings document).transitive spreads) :
      ∃ f, SpreadBy document spreads f ∧ f.name.text = n :=
    exists_spreadBy inside (FragmentLibrary.mem_transitive_iff.mp hn)
  have defined : ∀ n ∈ (knownFragments settings document).transitive spreads,
      ∃ f, fragmentNamed? document f.name.text = some f ∧ f.name.text = n := by
    intro n hn
    obtain ⟨f, hf, name⟩ := reached hn
    exact ⟨f, hf.named, name⟩
  obtain ⟨fs, hm, hfs⟩ := exists_fragments defined
  have unique {f g : Fragment} (hf : fragmentNamed? document f.name.text = some f)
      (hg : fragmentNamed? document g.name.text = some g) (same : f.name.text = g.name.text) :
      f = g := by
    rw [same, hg] at hf
    exact (Option.some.inj hf).symm
  refine ⟨fs, hm, fun f => ⟨fun hf => ?_, fun hf => ?_⟩⟩
  · have name : f.name.text ∈ (knownFragments settings document).transitive spreads := by
      rw [← hm]
      exact List.mem_map.mpr ⟨f, hf, rfl⟩
    obtain ⟨g, hg, same⟩ := reached name
    rw [unique (hfs f hf) hg.named same.symm]
    exact hg
  · have name : f.name.text ∈ (knownFragments settings document).transitive spreads :=
      FragmentLibrary.mem_transitive_iff.mpr hf.reaches
    rw [← hm] at name
    obtain ⟨g, hg, same⟩ := List.mem_map.mp name
    rw [← unique (hfs g hg) hf.named same]
    exact hg

end chains

/-! ### Hooks -/

/-- What a hook fetches with stands on a line of its own. -/
lemma Hook.fetch_mem_lines (h : Hook) : "      " ++ h.fetch ++ "," ∈ h.lines := by
  cases h with
  | query => simp [Hook.lines, Hook.fetch]
  | mutation => simp [Hook.lines, Hook.fetch]

/-- A strategy passes the constant to its function last, but for the variables. -/
lemma exists_callArguments (s : Strategy) (op : OperationSummary) :
    ∃ arguments, s.callArguments op ++ ["variables"] = arguments ++ [op.document, "variables"] := by
  cases s with
  | browser => exact ⟨["dataSource.endpoint", "dataSource.fetchParams || \x7b\x7d"], rfl⟩
  | client => exact ⟨["client"], rfl⟩
  | hardcoded => exact ⟨[], rfl⟩
  | mapped => exact ⟨[], rfl⟩

lemma passesConstant_of_call {s : Strategy} {h : Hook} (before after : String)
    (fetch : h.fetch = before ++ s.call h.operation ++ after) :
    PassesConstant s h h.operation.document := by
  obtain ⟨arguments, ha⟩ := exists_callArguments s h.operation
  refine ⟨h.fetch_mem_lines, before, arguments, ["variables"], after, ?_⟩
  rw [fetch, Strategy.call, ha]
  simp only [String.append_assoc]

/-- A mutation is run by a call in a function of the variables, or by a call that gives back one. -/
lemma mutationFunction_cases (s : Strategy) (op : OperationSummary) :
    s.mutationFunction op = "(" ++ op.mutationVariables ++ ") => " ++ s.call op ++ "()" ∨
      s.mutationFunction op = op.typed s.functionName ++ "(" ++ op.document ++ ")" := by
  cases s with
  | browser => exact .inl rfl
  | hardcoded => exact .inl rfl
  | client => exact .inl rfl
  | mapped mapper isLazy =>
    cases isLazy with
    | false => exact .inl rfl
    | true => exact .inr rfl

lemma passesConstant_mutation {s : Strategy} {h : Hook}
    (fetch : h.fetch = s.mutationFunction h.operation) :
    PassesConstant s h h.operation.document := by
  rcases mutationFunction_cases s h.operation with called | returned
  · exact passesConstant_of_call _ "()" (fetch.trans called)
  · refine ⟨h.fetch_mem_lines, "", [], [], "", ?_⟩
    rw [fetch, returned]
    simp

/-- The hook of an operation passes the constant of the operation. -/
lemma passesConstant {c : Compiler} {s : Strategy} {o : Operation} {b : Binding}
    (h : c.binding? s o = some b) : PassesConstant s b.hook b.document.name := by
  obtain ⟨hd, ho, hh⟩ := binding?_eq_some h
  have name : b.document.name = b.hook.operation.document := by
    rw [hd, ho]
    rfl
  rw [name]
  rcases hook?_eq_some hh with ⟨-, hook⟩ | ⟨-, hook⟩
  · apply passesConstant_of_call "" ""
    rw [hook]
    simp [Strategy.queryHook, Hook.fetch, Hook.operation]
  · apply passesConstant_mutation
    rw [hook]
    rfl

/-! ### The constant of an operation -/

section binding

variable {settings : Settings} {s : Strategy} {document : Document} {o : Operation} {b : Binding}
  (h : (compilerFor settings s document).binding? s o = some b)

include h

lemma body_binding : b.document.body = o.text := by
  rw [(binding?_eq_some h).1]
  rfl

lemma embedded_binding : b.document.embedded =
    ((knownFragments settings document).transitive o.spreads).map
      (compilerFor settings s document).fragmentConstant := by
  rw [(binding?_eq_some h).1]
  rfl

lemma return_not_mem_body : '\r' ∉ b.document.body.toList := by
  rw [body_binding h]
  exact o.spelled.no_return

end binding

lemma exists_tokens_fragments (fs : List Fragment) :
    ∃ tss, List.Forall₂ (fun (f : Fragment) ts => tokens? f.text.toList = some ts) fs tss := by
  induction fs with
  | nil => exact ⟨[], .nil⟩
  | cons f fs ih =>
    obtain ⟨ts, ht⟩ := f.spelled.exists_tokens
    obtain ⟨tss, hts⟩ := ih
    exact ⟨ts :: tss, .cons ht hts⟩

/-! ### One module -/

section module

variable {settings : Settings} {s : Strategy} {document : Document} {m : GeneratedModule}

/-- The names of the constants of a module are distinct identifiers. -/
structure WellNamed (m : GeneratedModule) : Prop where
  unique : (m.constants.map (·.name)).Nodup
  valid : ∀ k ∈ m.constants, isConstantName k.name = true

lemma WellNamed.fragments (h : WellNamed m) :
    (m.fragments.map (·.name)).Nodup ∧ ∀ k ∈ m.fragments, isConstantName k.name = true := by
  obtain ⟨unique, valid⟩ := h
  rw [GeneratedModule.constants, List.map_append] at unique
  exact ⟨(List.nodup_append.mp unique).1, fun k hk => valid k (List.mem_append_left _ hk)⟩

lemma WellNamed.bindings (h : WellNamed m) :
    ∀ b ∈ m.bindings, isConstantName b.document.name = true :=
  fun b hb => h.valid _ (List.mem_append_right _ (List.mem_map.mpr ⟨b, hb, rfl⟩))

/-- The statements above the constant of a binding. -/
def statementsAbove (m : GeneratedModule) (before : List Binding) : List String :=
  m.fragments.map DocumentConstant.text ++ before.flatMap Binding.statements

lemma exists_statements {before after : List Binding} {b : Binding}
    (h : m.bindings = before ++ b :: after) :
    ∃ post, m.statements = statementsAbove m before ++ b.document.text :: post := by
  refine ⟨b.statements.tail ++ after.flatMap Binding.statements, ?_⟩
  rw [GeneratedModule.statements, h, statementsAbove, List.flatMap_append, List.flatMap_cons]
  simp [Binding.statements]

/-- No constant above has the name of the constant of a binding. -/
lemma WellNamed.fresh (h : WellNamed m) {before after : List Binding} {b : Binding}
    (hooks : ∀ b ∈ m.bindings, ∀ c ∈ b.hook.operation.hookName.toList, isNameChar c = true)
    (split : m.bindings = before ++ b :: after) :
    b.document.name ∉ declaredConstants (statementsAbove m before) := by
  have sub : before ⊆ m.bindings := by
    rw [split]
    exact List.subset_append_left _ _
  have unique := h.unique
  rw [GeneratedModule.constants, split] at unique
  simp only [List.map_append, List.map_cons, ← List.append_assoc] at unique
  intro hx
  rw [statementsAbove, declaredConstants_append, List.mem_append] at hx
  refine (List.nodup_append.mp unique).2.2 _ (List.mem_append.mpr ?_) _ List.mem_cons_self rfl
  rcases hx with hx | hx
  · exact .inl (declaredConstants_fragments h.fragments.2 hx)
  · have named := declaredConstants_bindings (fun b hb => h.bindings b (sub hb))
      (fun b hb => hooks b (sub hb)) hx
    exact .inr (by simpa using named)

/-- Where the names of fragments are unique, the constants have the names of all fragments and of
all queries and mutations. -/
lemma wellNamed_of_names (unique : ((fragmentsOf document).map (·.name.text)).Nodup)
    {names : List String}
    (fragments : (fragmentsOf document).map (fun f =>
      (compilerFor settings s document).fragmentConstant f.name.text) ++
        ((operationsOf document).filter fun o => o.kind ≠ .subscription).map
          (compilerFor settings s document).documentName = names)
    (nodup : names.Nodup) (valid : ∀ x ∈ names, isConstantName x = true) :
    WellNamed ((compilerFor settings s document).module document) := by
  have operations : List.Forall₂ (· = ·)
      (((operationsOf document).filter fun o => o.kind ≠ .subscription).map
        (compilerFor settings s document).documentName)
      (((compilerFor settings s document).module document).bindings.map (·.document.name)) := by
    rw [List.forall₂_map_left_iff, List.forall₂_map_right_iff]
    refine (bindings_image settings s document).imp fun o b h => ?_
    rw [(binding?_eq_some h).1]
    rfl
  rw [List.forall₂_eq_eq_eq] at operations
  have perm : (((compilerFor settings s document).module document).constants.map (·.name)).Perm
      names := by
    rw [GeneratedModule.constants, fragments_module, fragmentConstants_compilerFor,
      List.map_append, List.map_map, List.map_map, ← fragments]
    exact ((perm_emittedFragments settings unique).map _).append (.of_eq operations.symm)
  constructor
  · exact perm.nodup_iff.mpr nodup
  · intro k hk
    exact valid k.name (perm.mem_iff.mp (List.mem_map.mpr ⟨k, hk, rfl⟩))

variable (made : m = (compilerFor settings s document).module document)

include made

lemma fragments_eq :
    m.fragments = (emittedFragments settings document).map
      (compilerFor settings s document).fragmentDocument := by
  rw [made, fragments_module, fragmentConstants_compilerFor]

lemma exists_operation {b : Binding} (hb : b ∈ m.bindings) :
    ∃ o, (compilerFor settings s document).binding? s o = some b := by
  rw [made, bindings_module] at hb
  obtain ⟨o, -, ho⟩ := List.mem_filterMap.mp hb
  exact ⟨o, ho⟩

lemma isNameChar_hooks :
    ∀ b ∈ m.bindings, ∀ c ∈ b.hook.operation.hookName.toList, isNameChar c = true := by
  intro b hb
  obtain ⟨o, ho⟩ := exists_operation made hb
  rw [(binding?_eq_some ho).2.1]
  exact isNameChar_hookName _ o

lemma mem_fragments {f : Fragment} (hf : fragmentNamed? document f.name.text = some f) :
    (compilerFor settings s document).fragmentDocument f ∈ m.fragments := by
  rw [fragments_eq made]
  exact List.mem_map.mpr ⟨f, mem_emittedFragments.mpr hf, rfl⟩

/-- The constant of a fragment has the lines of the fragment as its value. -/
lemma lookup_emitted (h : WellNamed m) {f : Fragment}
    (hf : fragmentNamed? document f.name.text = some f) (before : List Binding) :
    (evaluate (statementsAbove m before)).lookup
        ((compilerFor settings s document).fragmentConstant f.name.text) =
      some ((compilerFor settings s document).fragmentDocument f).bodyLines :=
  lookup_fragment h.fragments.2 h.fragments.1 (mem_fragments made hf) rfl
    f.spelled.no_return _

lemma declared_emitted (h : WellNamed m) {f : Fragment}
    (hf : fragmentNamed? document f.name.text = some f) (before : List Binding) :
    (compilerFor settings s document).fragmentConstant f.name.text ∈
      declaredConstants (statementsAbove m before) := by
  have mem := mem_fragments made hf
  have read := readConstant_text (h.fragments.2 _ mem) (List.forall_mem_nil _) f.spelled.no_return
  apply mem_declaredConstants.mpr
  refine ⟨_, List.mem_append_left _ (List.mem_map.mpr ⟨_, mem, rfl⟩), _, read⟩

/-- What a binding puts in is declared above it, or it belongs to an external fragment. -/
lemma declared_or_external (h : WellNamed m) {b : Binding} (hb : b ∈ m.bindings)
    (before : List Binding) {x : String} (hx : x ∈ b.document.embedded) :
    x ∈ declaredConstants (statementsAbove m before) ∨
      ∃ e ∈ settings.externalFragments, fragmentNamed? document e.name = none ∧
        x = Naming.affixed "" e.name settings.fragmentSuffix := by
  obtain ⟨o, ho⟩ := exists_operation made hb
  rw [embedded_binding ho] at hx
  obtain ⟨n, hn, rfl⟩ := List.mem_map.mp hx
  cases hf : fragmentNamed? document n with
  | some f =>
    obtain ⟨-, rfl⟩ := mem_of_fragmentNamed? hf
    exact .inl (declared_emitted made h hf before)
  | none =>
    have known := (FragmentLibrary.mem_transitive_iff.mp hn).known
    rcases FragmentLibrary.mem_names_knownFragments.mp known with external | defined
    · obtain ⟨e, he, rfl⟩ := List.mem_map.mp external
      exact .inr ⟨e, he, hf, rfl⟩
    · rw [← fragmentNamed?_isSome, hf] at defined
      cases defined

/-- The value of the constant of an operation, where all that the operation spreads is defined. -/
lemma lookup_operation (h : WellNamed m) {b : Binding} (hb : b ∈ m.bindings) {o : Operation}
    (ho : (compilerFor settings s document).binding? s o = some b) {fs : List Fragment}
    (names : fs.map (·.name.text) = (knownFragments settings document).transitive o.spreads)
    (defined : ∀ f ∈ fs, fragmentNamed? document f.name.text = some f) :
    (evaluate m.statements).lookup b.document.name =
      some (b.document.bodyLines ++ ((fs.map (compilerFor settings s document).fragmentDocument).map
        DocumentConstant.bodyLines).flatMap (DocumentConstant.embeddingMargin ++ ·)) := by
  obtain ⟨before, after, split⟩ := List.append_of_mem hb
  obtain ⟨post, statements⟩ := exists_statements split
  have embedded : b.document.embedded =
      fs.map fun f => (compilerFor settings s document).fragmentConstant f.name.text := by
    rw [embedded_binding ho, ← names, List.map_map]
    rfl
  have valid : ∀ v ∈ b.document.embedded, isConstantName v = true := by
    intro v hv
    rw [embedded] at hv
    obtain ⟨f, hf, rfl⟩ := List.mem_map.mp hv
    have valid := h.fragments.2 _ (mem_fragments made (defined f hf))
    rwa [name_fragmentDocument] at valid
  have values : List.Forall₂
      (fun v t => (evaluate (statementsAbove m before)).lookup v = some t) b.document.embedded
      ((fs.map (compilerFor settings s document).fragmentDocument).map
        DocumentConstant.bodyLines) := by
    rw [embedded, List.map_map, List.forall₂_map_left_iff, List.forall₂_map_right_iff,
      List.forall₂_same]
    intro f hf
    exact lookup_emitted made h (defined f hf) before
  rw [statements]
  exact lookup_document (h.bindings b hb) valid (return_not_mem_body ho)
    (h.fresh (isNameChar_hooks made) split) values post

/-- The constant of an operation that reaches no external fragment evaluates to what is to be
sent. -/
lemma sendsTokens (h : WellNamed m) {b : Binding} (hb : b ∈ m.bindings) {o : Operation}
    (ho : (compilerFor settings s document).binding? s o = some b)
    (inside : ReachesNoExternal settings document o.spreads) :
    SendsTokens settings document m b.document.name o := by
  obtain ⟨fs, names, chains⟩ := fragments_transitive inside
  obtain ⟨ts, ht⟩ := o.spelled.exists_tokens
  obtain ⟨tss, tokens⟩ := exists_tokens_fragments fs
  have bodies : ∀ k ∈ fs.map (compilerFor settings s document).fragmentDocument,
      '\r' ∉ k.body.toList := by
    intro k hk
    obtain ⟨f, -, rfl⟩ := List.mem_map.mp hk
    exact f.spelled.no_return
  have behind := tokens?_embedded bodies (List.forall₂_map_left_iff.mpr tokens)
  have own : tokens? b.document.body.toList = some ts := by
    rw [body_binding ho, ht]
  refine ⟨_, ts, fs, tss,
    lookup_operation made h hb ho names fun f hf => ((chains f).mp hf).named,
    ?_, ht, tokens, names, ?_, chains⟩
  · rw [tokens?_bodyLines (return_not_mem_body ho) own (lineTail_embedded _), behind]
    rfl
  · rw [names]
    exact FragmentLibrary.nodup_transitive _ _

end module

/-! ### What is sent -/

lemma mem_items {k : DocumentConstant} {x : String} : .hole x ∈ k.items ↔ x ∈ k.embedded := by
  simp [DocumentConstant.items, DocumentConstant.embeddingItems]

/-- The constants of a module, run from top to bottom, send what has to be sent. A reference in the
constant of an operation leads to a constant above it or to an external fragment. Each hook passes
its constant, and where no external fragment is reached the value of that constant has the tokens of
the operation and those of all the fragments that it spreads, each once, in the order in which they
are reached. -/
theorem documents_sent {options : Json} {documents : List Document} {settings : Settings}
    {m : GeneratedModule} (accepted : Decode.settings options = .accepted settings)
    (made : generate options documents = .ok m) (named : WellNamed m) :
    m.content = "\n".intercalate ((if m.fragments = [] then [""] else []) ++ m.statements) ∧
      (∀ before b after, m.bindings = before ++ b :: after →
        (∃ post, m.statements = statementsAbove m before ++ b.document.text :: post) ∧
        (∀ x ∈ b.document.embedded, x ∈ declaredConstants (statementsAbove m before) ∨
          ∃ e ∈ settings.externalFragments, fragmentNamed? documents.flatten e.name = none ∧
            x = Naming.affixed "" e.name settings.fragmentSuffix) ∧
        ((∀ x ∈ b.document.embedded, isConstantName x = true) →
          ∃ items, readConstant b.document.text = some (b.document.name, items) ∧
            ∀ x, .hole x ∈ items ↔ x ∈ b.document.embedded)) ∧
      ∃ s, Strategy.ofFetcher settings.fetcher = .ok s ∧
        List.Forall₂ (fun o b => PassesConstant s b.hook b.document.name ∧
          (ReachesNoExternal settings documents.flatten o.spreads →
            SendsTokens settings documents.flatten m b.document.name o))
          (boundOperations documents) m.bindings := by
  obtain ⟨settings', s, hd, hs, -, made⟩ := generate_eq_ok_iff.mp made
  rw [accepted] at hd
  cases hd
  refine ⟨m.content_eq, ?_, s, hs, ?_⟩
  · intro before b after split
    have hb : b ∈ m.bindings := by
      rw [split]
      exact List.mem_append_right _ List.mem_cons_self
    refine ⟨exists_statements split, ?_, ?_⟩
    · intro x hx
      exact declared_or_external made named hb before hx
    · intro valid
      obtain ⟨o, ho⟩ := exists_operation made hb
      have read := readConstant_text (named.bindings b hb) valid (return_not_mem_body ho)
      exact ⟨_, read, fun x => mem_items⟩
  · have image := bindings_image settings s documents.flatten
    rw [← made] at image
    have bound := ((List.forall₂_and_left _ _).mpr ⟨fun b hb => hb, image.flip⟩).flip
    refine bound.imp fun o b hob => ?_
    obtain ⟨hb, ho⟩ := hob
    exact ⟨passesConstant ho, sendsTokens made named hb ho⟩

/-- Two fragments that spread each other, one of them itself as well and one with a block string,
and an operation that spreads one of them and an unknown one. -/
theorem documents_sent_cycle :
    let f : Fragment := ⟨none, ⟨'F', [], rfl, rfl⟩, ⟨'T', [], rfl, rfl⟩, [],
      [.spread ⟨'G', [], rfl, rfl⟩ [], .spread ⟨'F', [], rfl, rfl⟩ []]⟩
    let g : Fragment := ⟨some (.block ⟨"a\n  $\x7bb\x7d \x60", by decide⟩), ⟨'G', [], rfl, rfl⟩,
      ⟨'T', [], rfl, rfl⟩, [], [.spread ⟨'F', [], rfl, rfl⟩ []]⟩
    let o : Operation := .bare .query (some ⟨'A', [], rfl, rfl⟩)
      [.spread ⟨'F', [], rfl, rfl⟩ [], .spread ⟨'Z', [], rfl, rfl⟩ []]
    let documents : List Document := [[.operation o, .fragment f], [.fragment g]]
    ∃ m, generate .null documents = .ok m ∧ WellNamed m ∧
      ∃ b, m.bindings = [b] ∧ SendsTokens .default documents.flatten m b.document.name o := by
  intro f g o documents
  have fragments : (fragmentsOf documents.flatten).map (·.name.text) = ["F", "G"] := rfl
  have named : WellNamed ((compilerFor .default .browser documents.flatten).module
      documents.flatten) := by
    have hf : (compilerFor .default .browser documents.flatten).fragmentConstant "F" =
        "FFragmentDoc" := by cbv
    have hg : (compilerFor .default .browser documents.flatten).fragmentConstant "G" =
        "GFragmentDoc" := by cbv
    have ho : (compilerFor .default .browser documents.flatten).documentName o =
        "ADocument" := by cbv
    have names : [(compilerFor .default .browser documents.flatten).fragmentConstant "F",
        (compilerFor .default .browser documents.flatten).fragmentConstant "G",
        (compilerFor .default .browser documents.flatten).documentName o] =
          ["FFragmentDoc", "GFragmentDoc", "ADocument"] := by
      rw [hf, hg, ho]
    have unique : ((fragmentsOf documents.flatten).map (·.name.text)).Nodup := by
      rw [fragments]
      decide
    apply @wellNamed_of_names .default .browser documents.flatten unique _ names
    · decide
    · decide
  refine ⟨_, rfl, named, ?_⟩
  obtain ⟨-, -, s, -, bound⟩ := @documents_sent .null documents .default _ rfl rfl named
  have operations : boundOperations documents = [o] := rfl
  rw [operations] at bound
  obtain ⟨b, rest, ⟨-, sends⟩, others, bindings⟩ := List.forall₂_cons_left_iff.mp bound
  rw [List.forall₂_nil_left_iff] at others
  subst others
  refine ⟨b, bindings, sends ?_⟩
  intro n _ external
  cases external

end OperationHooks
