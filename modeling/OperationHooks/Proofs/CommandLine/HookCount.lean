import OperationHooks.Proofs.CommandLine.Occurrences
import OperationHooks.Proofs.GeneratedNames
import OperationHooks.Proofs.Interchange

/-!
# How hooks are counted

Each hook is counted once, for its first line. Whatever else is counted comes from outside: from the
text of a definition, from the namespace that types are imported under, or from the name of the
function that is called.
-/

namespace OperationHooks

namespace CommandLine

open Compiler TypeScript

/-! ### Constants -/

/-- What needs no escape is found where it was. -/
lemma prefix_escapeTemplate {p : List Char} (plain : '\\' ∉ p ∧ '\x60' ∉ p ∧ '$' ∉ p)
    (cs : List Char) : p <+: escapeTemplate cs ↔ p <+: cs := by
  induction p generalizing cs with
  | nil => simp
  | cons a p ih =>
    simp only [List.mem_cons, not_or] at plain
    obtain ⟨⟨backslash, rest₁⟩, ⟨quote, rest₂⟩, ⟨dollar, rest₃⟩⟩ := plain
    cases cs with
    | nil => rfl
    | cons c r =>
      rw [escapeTemplate]
      split_ifs with escaped opens
      · have other : a ≠ c := by
          rintro rfl
          exact escaped.elim (Ne.symm backslash) (Ne.symm quote)
        simp [List.cons_prefix_cons, Ne.symm backslash, other]
      · have other : a ≠ c := by
          rintro rfl
          exact dollar opens.1.symm
        simp [List.cons_prefix_cons, Ne.symm backslash, other]
      · rw [List.cons_prefix_cons, List.cons_prefix_cons, ih ⟨rest₁, rest₂, rest₃⟩]

lemma holdsMark_cons_congr {xs ys : List Char} (front : hookMark.tail <+: xs ↔ hookMark.tail <+: ys)
    (behind : HoldsMark xs ↔ HoldsMark ys) (c : Char) :
    HoldsMark (c :: xs) ↔ HoldsMark (c :: ys) := by
  have mark : hookMark = 'e' :: hookMark.tail := rfl
  rw [HoldsMark, HoldsMark, List.infix_cons_iff, List.infix_cons_iff, ← HoldsMark, ← HoldsMark,
    behind, mark, List.cons_prefix_cons, List.cons_prefix_cons, front]

lemma holdsMark_cons {c : Char} (apart : c ∉ hookMark) (cs : List Char) :
    HoldsMark (c :: cs) ↔ HoldsMark cs := by
  have cut : HoldsMark ([] ++ c :: cs) ↔ HoldsMark [] ∨ HoldsMark cs := holdsMark_append_cons apart
  rwa [List.nil_append, or_iff_right not_holdsMark_nil] at cut

/-- Escapes neither make nor break a mark. -/
lemma holdsMark_escapeTemplate (cs : List Char) : HoldsMark (escapeTemplate cs) ↔ HoldsMark cs := by
  fun_induction escapeTemplate cs with
  | case1 => rfl
  | case2 c r hc ih =>
    have apart : c ∉ hookMark := by
      rcases hc with rfl | rfl
      · decide
      · decide
    rw [holdsMark_cons (by decide), holdsMark_cons apart, holdsMark_cons apart, ih]
  | case3 c r hq hc ih =>
    have apart : c ∉ hookMark := by
      rw [hc.1]
      decide
    rw [holdsMark_cons (by decide), holdsMark_cons apart, holdsMark_cons apart, ih]
  | case4 c r hq hc ih =>
    exact holdsMark_cons_congr (prefix_escapeTemplate (by decide) r) ih c

lemma holdsMark_moveIn (line : List Char) : HoldsMark (moveIn line) ↔ HoldsMark line := by
  rw [moveIn]
  split_ifs with empty
  · rw [empty]
  · have margin : Sealed "    ".toList := by decide
    exact margin.holdsMark_append

/-- The name of a constant can be told from that of a hook by its first character, and it has no
blanks. -/
structure NamesNoHook (name : String) : Prop where
  blankless : ' ' ∉ name.toList
  front : ∀ c ∈ name.toList.head?, c.isLower = false

/-- A constant does not begin as a hook does. -/
lemma not_holdsMark_header {name : String} (h : NamesNoHook name) :
    ¬HoldsMark ("export const " ++ name ++ " = \x60").toList := by
  have chars : ("export const " ++ name ++ " = \x60").toList =
      "export const ".toList ++ ((name.toList ++ [' ']) ++ "= \x60".toList) := by
    simp
  have ends : ∀ front ∈ hookMark.inits, front ≠ [] → front <:+ "export const ".toList →
      front = "export const ".toList := by decide
  have separates : Separates "= \x60".toList := by decide
  have behind : ¬HoldsMark ((name.toList ++ [' ']) ++ "= \x60".toList) :=
    mt separates.holdsMark_append_self.mp (not_holdsMark_word h.blankless)
  rw [chars, HoldsMark, List.infix_append_iff]
  rintro (inside | inside | ⟨front, back, cut, last, first⟩)
  · exact absurd inside (by decide)
  · exact behind inside
  · by_cases empty : front = []
    · rw [empty, List.nil_append] at cut
      rw [HoldsMark, cut] at behind
      exact behind first.isInfix
    · -- all of the front is there, so the name would go on as that of a hook
      have all := ends front ((List.mem_inits front hookMark).mpr ⟨back, cut.symm⟩) empty last
      have back : back = "use".toList := by
        have mark : hookMark = "export const ".toList ++ "use".toList := by decide
        rw [all, mark] at cut
        exact (List.append_cancel_left cut).symm
      rw [back] at first
      have front := h.front
      cases chars : name.toList with
      | nil =>
        rw [chars] at first
        exact absurd first (by decide)
      | cons c cs =>
        rw [chars] at first front
        obtain ⟨rfl, -⟩ := List.cons_prefix_cons.mp first
        exact absurd (front 'u' rfl) (by decide)

/-- All that can be counted in a constant is in the text of its definition. -/
lemma holdsMark_constant {k : DocumentConstant} (name : NamesNoHook k.name)
    (embedded : ∀ v ∈ k.embedded, ' ' ∉ v.toList) :
    HoldsMark k.text.toList ↔ HoldsMark k.body.toList := by
  have body : (∃ line ∈ (splitLines (escapeTemplate k.body.toList)).map
      (fun l => String.ofList (moveIn l)), HoldsMark line.toList) ↔ HoldsMark k.body.toList := by
    rw [← holdsMark_escapeTemplate, ← holdsMark_splitLines]
    simp [holdsMark_moveIn]
  have places : ¬∃ line ∈ k.embedded.map (fun v => "    $\x7b" ++ v ++ "\x7d"),
      HoldsMark line.toList := by
    simp only [List.mem_map, not_exists, not_and]
    rintro _ ⟨v, hv, rfl⟩
    have sealed : Sealed "    $\x7b".toList := by decide
    have chars : ("    $\x7b" ++ v ++ "\x7d").toList =
        "    $\x7b".toList ++ (v.toList ++ "\x7d".toList) := by simp
    rw [chars, sealed.holdsMark_append]
    refine not_holdsMark_of_blankless fun blank => ?_
    rcases List.mem_append.mp blank with inside | behind
    · exact embedded v hv inside
    · exact absurd behind (by decide)
  rw [DocumentConstant.text, holdsMark_before (by decide), holdsMark_intercalate (by decide)]
  simp only [DocumentConstant.lines, List.mem_cons, List.mem_append, or_and_right, exists_or,
    exists_eq_left]
  rw [or_iff_right (not_holdsMark_header name), body, or_iff_left places]

/-! ### Hooks -/

/-- What a hook is told about its operation holds the mark in both types or nowhere. -/
structure MarkOnlyInTypes (op : OperationSummary) (inTypes : Prop) : Prop where
  name : ' ' ∉ op.name.toList
  document : ' ' ∉ op.document.toList
  binding : ' ' ∉ op.bindingName.toList
  result : HoldsMark op.resultType.toList ↔ inTypes
  parameters : HoldsMark op.variablesType.toList ↔ inTypes

/-- The first line of a hook counts once. -/
lemma hookCount_opening {op : OperationSummary} (h : ' ' ∉ op.bindingName.toList) :
    hookCount ("export const " ++ op.hookName ++ " = <") = 1 := by
  have mark : hookMark = "export const ".toList ++ "use".toList := by decide
  have chars : ("export const " ++ op.hookName ++ " = <").toList =
      hookMark ++ ((op.bindingName.toList ++ [' ']) ++ "= <".toList) := by
    simp [OperationSummary.hookName, mark]
  have separates : Separates "= <".toList := by decide
  have behind : ¬HoldsMark ((op.bindingName.toList ++ [' ']) ++ "= <".toList) :=
    mt separates.holdsMark_append_self.mp (not_holdsMark_word h)
  have count := (occurrences_eq_zero_iff (by decide)).mpr behind
  rw [hookCount_eq, chars, occurrences_append (by decide), count]

lemma not_holdsMark_params (s : Strategy) :
    ∀ line ∈ s.params.map Hook.paramLine, ¬HoldsMark line.toList := by
  cases s with
  | browser => decide +kernel
  | client => decide +kernel
  | hardcoded => exact List.forall_mem_nil _
  | mapped => exact List.forall_mem_nil _

section Lines

variable {op : OperationSummary} {inTypes : Prop} (h : MarkOnlyInTypes op inTypes) (s : Strategy)
include h

lemma holdsMark_typed (function : String) :
    HoldsMark (op.typed function).toList ↔ HoldsMark function.toList ∨ inTypes := by
  rw [OperationSummary.typed, holdsMark_before (by decide), holdsMark_between (by decide),
    holdsMark_between (by decide), h.result, h.parameters, or_assoc, or_self]

lemma not_holdsMark_document : ¬HoldsMark op.document.toList :=
  not_holdsMark_of_blankless h.document

lemma holdsMark_call :
    HoldsMark (s.call op).toList ↔ HoldsMark s.functionName.toList ∨ inTypes := by
  have constants : ∀ t ∈ ["dataSource.endpoint", "dataSource.fetchParams || \x7b\x7d", "client",
      "variables"], ¬HoldsMark t.toList := by decide
  have arguments : ¬∃ t ∈ s.callArguments op ++ ["variables"], HoldsMark t.toList := by
    rintro ⟨t, ht, holds⟩
    have known : t = op.document ∨ t ∈ ["dataSource.endpoint",
        "dataSource.fetchParams || \x7b\x7d", "client", "variables"] := by
      cases s <;> simp [Strategy.callArguments] at ht ⊢ <;> grind
    rcases known with rfl | constant
    · exact not_holdsMark_document h holds
    · exact constants t constant holds
  rw [Strategy.call, holdsMark_before (by decide), holdsMark_between (by decide),
    holdsMark_typed h, holdsMark_intercalate (by decide), or_iff_left arguments]

lemma holdsMark_mutationFunction :
    HoldsMark (s.mutationFunction op).toList ↔ HoldsMark s.functionName.toList ∨ inTypes := by
  have called : HoldsMark ("(" ++ op.mutationVariables ++ ") => " ++ s.call op ++ "()").toList ↔
      HoldsMark s.functionName.toList ∨ inTypes := by
    rw [OperationSummary.mutationVariables, holdsMark_before (by decide),
      holdsMark_between (by decide), holdsMark_sealed (by decide), holdsMark_sealed (by decide),
      holdsMark_call h, h.parameters]
    tauto
  rw [Strategy.mutationFunction.eq_def]
  split
  · next m =>
    rw [holdsMark_before (by decide), holdsMark_between (by decide), holdsMark_typed h,
      or_iff_left (not_holdsMark_document h)]
    rfl
  · exact called

lemma holdsMark_queryVariables : HoldsMark op.queryVariables.toList ↔ inTypes := by
  rw [OperationSummary.queryVariables]
  split_ifs
  · rw [holdsMark_between (by decide), h.parameters]
    exact or_iff_right (by decide)
  · rw [holdsMark_between (by decide), h.parameters]
    exact or_iff_right (by decide)

lemma not_holdsMark_queryKey : ¬HoldsMark op.queryKey.toList := by
  rw [OperationSummary.queryKey, holdsMark_before (by decide), holdsMark_sealed (by decide)]
  exact not_holdsMark_of_blankless h.name

lemma holdsMark_queryTypes : HoldsMark (Hook.queryTypes op).toList ↔ inTypes := by
  rw [Hook.queryTypes, holdsMark_before (by decide), holdsMark_sealed (by decide), h.result]

lemma holdsMark_mutationTypes : HoldsMark (Hook.mutationTypes op).toList ↔ inTypes := by
  rw [Hook.mutationTypes, holdsMark_before (by decide), holdsMark_between (by decide),
    holdsMark_sealed (by decide), h.result, h.parameters, or_self]

lemma holdsMark_querySignature (params : List String) (call : String) :
    (∃ line ∈ (Hook.query op ⟨"useQuery", "UseQueryOptions"⟩ params call).signature,
      HoldsMark line.toList) ↔ inTypes := by
  have arrow : ¬HoldsMark "    ) =>".toList := by decide
  have param : HoldsMark (Hook.paramLine op.queryVariables).toList ↔ inTypes := by
    rw [Hook.paramLine, holdsMark_before (by decide), holdsMark_sealed (by decide),
      holdsMark_queryVariables h]
  have options : HoldsMark ("      options?: " ++ "UseQueryOptions" ++ Hook.queryTypes op).toList ↔
      inTypes := by
    rw [holdsMark_sealed (by decide), holdsMark_queryTypes h]
  have hook : HoldsMark ("    " ++ "useQuery" ++ Hook.queryTypes op ++ "(").toList ↔ inTypes := by
    rw [holdsMark_before (by decide), holdsMark_sealed (by decide), holdsMark_queryTypes h]
  have key : ¬HoldsMark ("      " ++ op.queryKey ++ ",").toList := by
    rw [holdsMark_before (by decide), holdsMark_sealed (by decide)]
    exact not_holdsMark_queryKey h
  simp only [Hook.signature, List.mem_cons, List.not_mem_nil, or_and_right, exists_or,
    exists_eq_left, arrow, param, options, hook, key]
  simp

lemma holdsMark_mutationSignature (params : List String) (function : String) :
    (∃ line ∈ (Hook.mutation op ⟨"useMutation", "UseMutationOptions"⟩ params function).signature,
      HoldsMark line.toList) ↔ inTypes := by
  have arrow : ¬HoldsMark "    ) =>".toList := by decide
  have options : HoldsMark
      ("      options?: " ++ "UseMutationOptions" ++ Hook.mutationTypes op).toList ↔ inTypes := by
    rw [holdsMark_sealed (by decide), holdsMark_mutationTypes h]
  have hook : HoldsMark ("    " ++ "useMutation" ++ Hook.mutationTypes op ++ "(").toList ↔
      inTypes := by
    rw [holdsMark_before (by decide), holdsMark_sealed (by decide), holdsMark_mutationTypes h]
  simp only [Hook.signature, List.mem_cons, List.not_mem_nil, or_and_right, exists_or,
    exists_eq_left, arrow, options, hook]
  simp

/-- Behind its first line a hook opens with the type of its result at most. -/
lemma inTypes_of_holdsMark_opening {hook : Hook} (operation : hook.operation = op)
    (holds : ∃ line ∈ hook.opening.tail, HoldsMark line.toList) : inTypes := by
  have constants : ∀ line ∈ ["      TError = unknown", "      TError = unknown,",
      "      TContext = unknown", "    >("], ¬HoldsMark line.toList := by decide
  have data : HoldsMark ("      TData = " ++ op.resultType ++ ",").toList ↔ inTypes := by
    rw [holdsMark_before (by decide), holdsMark_sealed (by decide), h.result]
  obtain ⟨line, hl, holds⟩ := holds
  cases hook with
  | query op' names params call =>
    cases operation
    simp only [Hook.opening, List.tail_cons, List.mem_cons, List.not_mem_nil, or_false] at hl
    rcases hl with rfl | rfl | rfl
    · exact data.mp holds
    · exact absurd holds (constants _ (by simp))
    · exact absurd holds (constants _ (by simp))
  | mutation op' names params function =>
    refine absurd holds (constants line ?_)
    simp only [Hook.opening, List.tail_cons, List.mem_cons, List.not_mem_nil, or_false] at hl
    rcases hl with rfl | rfl | rfl <;> simp

/-- All that can be counted behind the first line of a hook is in the types of its operation and in
what it fetches with. -/
lemma holdsMark_lines {hook : Hook} (params : hook.params = s.params)
    (operation : hook.operation = op)
    (signature : (∃ line ∈ hook.signature, HoldsMark line.toList) ↔ inTypes)
    (fetch : HoldsMark hook.fetch.toList ↔ HoldsMark s.functionName.toList ∨ inTypes) :
    (∃ line ∈ hook.lines.tail, HoldsMark line.toList) ↔
      HoldsMark s.functionName.toList ∨ inTypes := by
  have opening := inTypes_of_holdsMark_opening h operation
  have params' : ¬∃ line ∈ s.params.map Hook.paramLine, HoldsMark line.toList := by
    simpa using not_holdsMark_params s
  have fetchLine : HoldsMark ("      " ++ hook.fetch ++ ",").toList ↔
      HoldsMark s.functionName.toList ∨ inTypes := by
    rw [holdsMark_before (by decide), holdsMark_sealed (by decide), fetch]
  have closing : ¬∃ line ∈ Hook.closing, HoldsMark line.toList := by decide
  have tail : hook.lines.tail = hook.opening.tail
      ++ (s.params.map Hook.paramLine ++ (hook.signature ++ ("      " ++ hook.fetch ++ ",")
        :: Hook.closing)) := by
    rw [Hook.lines_eq_linesWith, Hook.linesWith, params]
    cases hook <;> simp [Hook.opening]
  rw [tail]
  simp only [List.mem_append, List.mem_cons, or_and_right, exists_or, exists_eq_left]
  rw [signature, fetchLine, or_iff_left closing, or_iff_right params']
  constructor
  · rintro (first | types | behind)
    · exact .inr (opening first)
    · exact .inr types
    · exact behind
  · exact fun behind => .inr (.inr behind)

lemma holdsMark_queryHook (module : String) :
    (∃ line ∈ (s.queryHook (.inModule module) op).lines.tail, HoldsMark line.toList) ↔
      HoldsMark s.functionName.toList ∨ inTypes :=
  holdsMark_lines h s rfl rfl (holdsMark_querySignature h _ _) (holdsMark_call h s)

lemma holdsMark_mutationHook (module : String) :
    (∃ line ∈ (s.mutationHook (.inModule module) op).lines.tail, HoldsMark line.toList) ↔
      HoldsMark s.functionName.toList ∨ inTypes :=
  holdsMark_lines h s rfl rfl (holdsMark_mutationSignature h _ _) (holdsMark_mutationFunction h s)

lemma holdsMark_keyAccessor : HoldsMark (Hook.keyAccessor op).toList ↔ inTypes := by
  have hookName : ¬HoldsMark op.hookName.toList := by
    refine not_holdsMark_of_blankless fun blank => ?_
    simp [OperationSummary.hookName, h.binding] at blank
  rw [Hook.keyAccessor, holdsMark_before (by decide), holdsMark_between (by decide),
    holdsMark_between (by decide), holdsMark_queryVariables h, or_iff_right hookName,
    or_iff_left (not_holdsMark_queryKey h)]

end Lines

/-! ### Generated names -/

lemma blankless_of_isAlphanum {cs : List Char} (h : ∀ c ∈ cs, c.isAlphanum = true) : ' ' ∉ cs :=
  fun blank => absurd (h ' ' blank) (by decide)

lemma blankless_affixed {name suffix : String} (h : ∀ c ∈ name.toList, isNameContinue c = true)
    (behind : ' ' ∉ suffix.toList) : ' ' ∉ (Naming.affixed "" name suffix).toList := by
  have converted := blankless_of_isAlphanum (Naming.isAlphanum_pascalChars h)
  simpa [Naming.affixed, Naming.pascal] using ⟨converted, behind⟩

lemma namesNoHook_affixed {name suffix : String} (h : ∀ c ∈ name.toList, isNameContinue c = true)
    (suffixed : IsSuffix suffix) : NamesNoHook (Naming.affixed "" name suffix) where
  blankless := blankless_affixed h (blankless_of_isAlphanum (List.all_eq_true.mp suffixed.word))
  front := by
    have front := Naming.not_isLower_head?_pascalChars h
    have chars : (Naming.affixed "" name suffix).toList =
        Naming.pascalChars name.toList ++ suffix.toList := by
      simp [Naming.affixed, Naming.pascal]
    rw [chars]
    cases converted : Naming.pascalChars name.toList with
    | nil => exact fun c hc => not_isLower_of_isUpper (suffixed.capital c hc)
    | cons d ds =>
      rw [converted] at front
      exact front

/-- A type holds the mark if the namespace does. -/
lemma holdsMark_type (settings : Settings) {word : String} (h : ' ' ∉ word.toList) :
    HoldsMark (settings.typePrefix ++ word).toList ↔
      HoldsMark (settings.importOperationTypesFrom.getD "").toList := by
  have plain : ¬HoldsMark word.toList := not_holdsMark_of_blankless h
  rw [Settings.typePrefix]
  split
  · next none => simp [none, plain, not_holdsMark_nil]
  · next empty => simp [empty, plain, not_holdsMark_nil]
  · next given =>
    rw [given, holdsMark_between (by decide), or_iff_left plain, Option.getD_some]

lemma markOnlyInTypes_summarize {c : Compiler} (usual : c.settings.UsualSuffixes) (o : Operation) :
    MarkOnlyInTypes (c.summarize o)
      (HoldsMark (c.settings.importOperationTypesFrom.getD "").toList) := by
  have name := isNameContinue_operationName o
  obtain ⟨suffix, suffix'⟩ := isSuffix_kindSuffix c o.kind
  have blankless {suffix : String} (h : IsSuffix suffix) :=
    blankless_affixed name (blankless_of_isAlphanum (List.all_eq_true.mp h.word))
  have document : ' ' ∉ (c.documentName o).toList := by
    rw [documentName, usual.document]
    exact blankless isSuffix_document
  exact {
    name := fun blank => absurd (name ' ' blank) (by decide)
    document
    binding := blankless suffix
    result := holdsMark_type c.settings (blankless suffix)
    parameters := holdsMark_type c.settings (blankless suffix') }

/-! ### Bindings -/

section Bindings

variable {settings : Settings} {s : Strategy} {document : Document} {o : Operation} {b : Binding}
  (usual : settings.UsualSuffixes)
include usual

lemma namesNoHook_fragment (f : Fragment) :
    NamesNoHook ((compilerFor settings s document).fragmentConstant f.name.text) := by
  refine namesNoHook_affixed ?_ (usual.fragment ▸ isSuffix_fragment)
  rw [Name.toList_text]
  exact f.name.isNameContinue_chars

lemma holdsMark_document (inside : settings.externalFragments = [])
    (h : (compilerFor settings s document).binding? s o = some b) :
    HoldsMark b.document.text.toList ↔ HoldsMark b.document.body.toList := by
  apply holdsMark_constant
  · rw [(binding?_eq_some h).1]
    exact namesNoHook_affixed (isNameContinue_operationName o)
      (usual.document ▸ isSuffix_document)
  · intro v hv
    rw [embedded_binding h] at hv
    obtain ⟨n, hn, rfl⟩ := List.mem_map.mp hv
    have known := (FragmentLibrary.mem_transitive_iff.mp hn).known
    rw [FragmentLibrary.mem_names_knownFragments, inside] at known
    obtain ⟨f, -, rfl⟩ := known.resolve_left (by simp)
    exact (namesNoHook_fragment usual f).blankless

lemma holdsMark_fragment (f : Fragment) :
    HoldsMark ((compilerFor settings s document).fragmentDocument f).text.toList ↔
      HoldsMark f.text.toList :=
  holdsMark_constant (k := (compilerFor settings s document).fragmentDocument f)
    (namesNoHook_fragment usual f) (List.forall_mem_nil _)

lemma holdsMark_hook (h : (compilerFor settings s document).binding? s o = some b) :
    (∃ line ∈ b.hook.lines.tail, HoldsMark line.toList) ↔
      HoldsMark s.functionName.toList ∨
        HoldsMark (settings.importOperationTypesFrom.getD "").toList := by
  have types := markOnlyInTypes_summarize (c := compilerFor settings s document) usual o
  obtain ⟨hook, hh, rfl⟩ := Option.map_eq_some_iff.mp h
  rcases hook?_eq_some hh with ⟨-, rfl⟩ | ⟨-, rfl⟩
  · exact holdsMark_queryHook types s settings.hookModule
  · exact holdsMark_mutationHook types s settings.hookModule

/-- What is written for an operation counts once, and more than once only for what comes from
outside. -/
lemma hookCount_statements (inside : settings.externalFragments = [])
    (h : (compilerFor settings s document).binding? s o = some b) :
    1 ≤ (b.statements.map hookCount).sum ∧
      ((b.statements.map hookCount).sum = 1 ↔ ¬HoldsMark b.document.body.toList ∧
        ¬HoldsMark s.functionName.toList ∧
        ¬HoldsMark (settings.importOperationTypesFrom.getD "").toList) := by
  have types := markOnlyInTypes_summarize (c := compilerFor settings s document) usual o
  have operation := (binding?_eq_some h).2.1
  have lines : b.hook.lines =
      ("export const " ++ b.hook.operation.hookName ++ " = <") :: b.hook.lines.tail := by
    cases b.hook <;> rfl
  have opening : hookCount ("export const " ++ b.hook.operation.hookName ++ " = <") = 1 := by
    rw [operation]
    exact hookCount_opening types.binding
  have hook : hookCount b.hook.text = 1 + (b.hook.lines.tail.map hookCount).sum := by
    rw [Hook.text, lines, hookCount_lines, List.map_cons, List.sum_cons, opening, List.tail_cons]
  have document : hookCount b.document.text = 0 ↔ ¬HoldsMark b.document.body.toList := by
    rw [hookCount_eq_zero_iff, holdsMark_document usual inside h]
  have tail := sum_hookCount_eq_zero_iff b.hook.lines.tail
  rw [holdsMark_hook usual h, not_or] at tail
  have key : hookCount (Hook.keyAccessor b.hook.operation) = 0 ↔
      ¬HoldsMark (settings.importOperationTypesFrom.getD "").toList := by
    rw [hookCount_eq_zero_iff, operation]
    exact not_congr (holdsMark_keyAccessor types)
  have sum : (b.statements.map hookCount).sum = hookCount b.document.text + hookCount b.hook.text
      + if b.exposesKey then hookCount (Hook.keyAccessor b.hook.operation) else 0 := by
    rw [Binding.statements]
    split <;> simp [Nat.add_assoc]
  have alsoKey : (b.hook.lines.tail.map hookCount).sum = 0 →
      hookCount (Hook.keyAccessor b.hook.operation) = 0 := fun none => key.mpr (tail.mp none).2
  rw [sum, hook, ← document, ← tail]
  clear document tail key
  split <;> omega

end Bindings

/-! ### Modules -/

/-- Where each item counts at least once, the sum is their number exactly if each counts once. -/
lemma length_le_sum_map {α : Type} {f : α → Nat} {xs : List α} (h : ∀ x ∈ xs, 1 ≤ f x) :
    xs.length ≤ (xs.map f).sum ∧ ((xs.map f).sum = xs.length ↔ ∀ x ∈ xs, f x = 1) := by
  induction xs with
  | nil => simp
  | cons x xs ih =>
    obtain ⟨here, rest⟩ := List.forall_mem_cons.mp h
    obtain ⟨le, eq⟩ := ih rest
    rw [List.map_cons, List.sum_cons, List.length_cons, List.forall_mem_cons, ← eq]
    omega

/-- The number of hooks is never too small. It is right if no definition holds what looks like the
beginning of a hook and, where there is a hook, neither the namespace nor the function does. -/
lemma hookCount_module {settings : Settings} {s : Strategy} {document : Document}
    {m : GeneratedModule} (usual : settings.UsualSuffixes)
    (inside : settings.externalFragments = [])
    (made : m = (compilerFor settings s document).module document) :
    m.bindings.length ≤ hookCount m.content ∧
      (hookCount m.content = m.bindings.length ↔
        (∀ k ∈ m.constants, ¬HoldsMark k.body.toList) ∧
        (m.bindings ≠ [] → ¬HoldsMark s.functionName.toList ∧
          ¬HoldsMark (settings.importOperationTypesFrom.getD "").toList)) := by
  let count : Binding → Nat := fun b => (b.statements.map hookCount).sum
  have each : ∀ b ∈ m.bindings, 1 ≤ count b ∧ (count b = 1 ↔ ¬HoldsMark b.document.body.toList ∧
      ¬HoldsMark s.functionName.toList ∧
      ¬HoldsMark (settings.importOperationTypesFrom.getD "").toList) := by
    intro b hb
    obtain ⟨o, ho⟩ := exists_operation made hb
    exact hookCount_statements usual inside ho
  obtain ⟨le, eq⟩ := length_le_sum_map fun b hb => (each b hb).1
  have fragments : ((m.fragments.map DocumentConstant.text).map hookCount).sum = 0 ↔
      ∀ k ∈ m.fragments, ¬HoldsMark k.body.toList := by
    have same : ∀ k ∈ m.fragments, (HoldsMark k.text.toList ↔ HoldsMark k.body.toList) := by
      intro k hk
      rw [fragments_eq made] at hk
      obtain ⟨f, -, rfl⟩ := List.mem_map.mp hk
      exact holdsMark_fragment usual f
    rw [sum_hookCount_eq_zero_iff]
    simp only [List.mem_map, not_exists, not_and, forall_exists_index, and_imp,
      forall_apply_eq_imp_iff₂]
    exact forall₂_congr fun k hk => not_congr (same k hk)
  have sum : hookCount m.content =
      ((m.fragments.map DocumentConstant.text).map hookCount).sum + (m.bindings.map count).sum := by
    have front : ((if m.fragments = [] then [""] else []).map hookCount).sum = 0 := by
      split <;> rfl
    have bindings : ((m.bindings.flatMap Binding.statements).map hookCount).sum =
        (m.bindings.map count).sum := by
      rw [List.flatMap_def, List.map_flatten, List.sum_flatten, List.map_map, List.map_map]
      rfl
    rw [GeneratedModule.content_eq, hookCount_lines, List.map_append, List.sum_append, front,
      GeneratedModule.statements, List.map_append, List.sum_append, bindings, Nat.zero_add]
  have eq : (m.bindings.map count).sum = m.bindings.length ↔
      (∀ b ∈ m.bindings, ¬HoldsMark b.document.body.toList) ∧
        (m.bindings ≠ [] → ¬HoldsMark s.functionName.toList ∧
          ¬HoldsMark (settings.importOperationTypesFrom.getD "").toList) := by
    rw [eq]
    constructor
    · intro once
      refine ⟨fun b hb => ((each b hb).2.mp (once b hb)).1, fun some_binding => ?_⟩
      obtain ⟨b, hb⟩ := List.exists_mem_of_ne_nil _ some_binding
      exact ((each b hb).2.mp (once b hb)).2
    · rintro ⟨bodies, outside⟩ b hb
      exact (each b hb).2.mpr ⟨bodies b hb, outside (List.ne_nil_of_mem hb)⟩
  have constants : (∀ k ∈ m.constants, ¬HoldsMark k.body.toList) ↔
      (∀ k ∈ m.fragments, ¬HoldsMark k.body.toList) ∧
        ∀ b ∈ m.bindings, ¬HoldsMark b.document.body.toList := by
    rw [GeneratedModule.constants, List.forall_mem_append, List.forall_mem_map]
  rw [constants, and_assoc, ← eq, ← fragments, sum]
  omega

end CommandLine

end OperationHooks
