import OperationHooks.Proofs.CommandLine.HookCount
import OperationHooks.Proofs.CommandLine.Run

/-!
# What a run reports

A run that is asked for more prints how many documents there are, how many hooks it finds in the
text of the module, and one line for each diagnostic. The number is right unless something from
outside looks like the beginning of a hook. The lines call operations skipped for which there is a
binding: those without a name.
-/

namespace OperationHooks

namespace CommandLine

open Compiler

variable {files : FileSystem} {request : Request} {params : List (String × Json)}
  {documents : List LoadedDocument} {m : GeneratedModule} {place : List FileName}

/-! ### Printed lines -/

/-- Where everything up to the writing goes well, all stages print their lines. -/
lemma Request.Answer.output_eq (h : request.Answer files params documents m) :
    (runGenerate files request).output =
      ["Parsing schema...", "Parsing documents..."]
        ++ (if request.verbose then ["  Documents: " ++ toString documents.length] else [])
        ++ ["Generating hooks..."] ++ summaryLines request m
        ++ (writeModule files (files.resolve request.output) m).output := by
  rw [h.runGenerate_eq]
  simp only [Outcome.output_after, List.append_assoc, List.cons_append, List.nil_append]

/-- A module that is written is announced before and confirmed afterwards. -/
lemma output_writeModule (h : (writeModule files place m).ending.exitCode = 0) :
    (writeModule files place m).output =
      ["Writing to " ++ Path.ofNames place ++ "...",
        "Done! Generated hooks in " ++ Path.ofNames place] := by
  rw [writeModule] at h ⊢
  cases changed : files.put place (bytesOf m) with
  | error fault =>
    rw [changed] at h
    cases fault <;> exact absurd h Nat.one_ne_zero
  | ok written =>
    rw [changed] at h
    dsimp only at h ⊢
    split_ifs at h ⊢ with whole
    · rfl
    · exact absurd h Nat.one_ne_zero

/-! ### Skipped operations -/

/-- The operations of documents that have no binding. -/
def unboundOperations (documents : List Document) : List Operation :=
  (operationsOf documents.flatten).filter fun o => o.kind = .subscription

/-- The operations of documents that there is a diagnostic for. -/
def reportedOperations (documents : List Document) : List Operation :=
  (operationsOf documents.flatten).filter fun o => o.kind = .subscription ∨ o.name? = none

/-- The reported operations are those without a binding exactly if all others have names. -/
lemma names_reportedOperations_eq_iff (documents : List Document) :
    (reportedOperations documents).map operationName =
        (unboundOperations documents).map operationName ↔
      ∀ o ∈ boundOperations documents, o.name? ≠ none := by
  have sublist : (unboundOperations documents).Sublist (reportedOperations documents) := by
    refine List.monotone_filter_right _ fun o ho => ?_
    simpa using Or.inl (by simpa using ho)
  constructor
  · intro names o ho anonymous
    -- one more operation reported than there are without a binding would be one more name
    have same := sublist.eq_of_length (by simpa using (congrArg List.length names).symm)
    obtain ⟨there, bound⟩ := List.mem_filter.mp ho
    have reported : o ∈ reportedOperations documents :=
      List.mem_filter.mpr ⟨there, by simp [anonymous]⟩
    rw [← same] at reported
    simp [(List.mem_filter.mp reported).2] at bound
  · intro named
    have same : reportedOperations documents = unboundOperations documents := by
      refine List.filter_congr fun o there => ?_
      by_cases unbound : o.kind = .subscription
      · simp [unbound]
      · have name := named o (List.mem_filter.mpr ⟨there, by simpa using unbound⟩)
        simp [unbound, name]
    rw [same]

/-! ### Whole runs -/

/-- The diagnostics of a module are about the reported operations. -/
lemma operation_diagnostics (settings : Settings) (s : Strategy) (documents : List Document) :
    ((compilerFor settings s documents.flatten).module documents.flatten).diagnostics.map
        (·.operation) =
      (reportedOperations documents).map operationName := by
  have image := diagnostics_image settings s documents.flatten
  have names : List.Forall₂ (· = ·) ((reportedOperations documents).map operationName)
      (((compilerFor settings s documents.flatten).module documents.flatten).diagnostics.map
        (·.operation)) := by
    rw [List.forall₂_map_left_iff, List.forall₂_map_right_iff]
    refine image.imp fun o d h => ?_
    obtain ⟨concern, -, rfl⟩ := Option.map_eq_some_iff.mp h
    rfl
  rw [List.forall₂_eq_eq_eq] at names
  exact names.symm

/-- A run that ends well has come to a module and written it. -/
lemma answer_of_exitCode (ended : (runGenerate files request).ending.exitCode = 0) :
    ∃ params documents m, request.Answer files params documents m ∧
      files.OnlyWritten (files.resolve request.output) m.render.toUTF8
        (runGenerate files request).files := by
  rcases runGenerate_outcome files request with stopped | ⟨params, documents, m, answer,
    ⟨-, -, only⟩ | ⟨failed, -⟩⟩
  · exact absurd ended stopped.2
  · exact ⟨params, documents, m, answer, only⟩
  · exact absurd ended failed

/-- The lines of a run that is asked for more and ends well. -/
def reportLines (request : Request) (files : FileSystem) (documents : List LoadedDocument)
    (m : GeneratedModule) : List String :=
  let path := Path.ofNames (files.resolve request.output)
  ["Parsing schema...", "Parsing documents...", "  Documents: " ++ toString documents.length,
      "Generating hooks...", "  Bindings: " ++ toString (hookCount m.content)]
    ++ (reportedOperations (documents.map (·.document))).map (fun o =>
      "  Skipped " ++ operationName o)
    ++ ["Writing to " ++ path ++ "...", "Done! Generated hooks in " ++ path]

/-- What is printed where an answer is written. -/
lemma Request.Answer.output_eq_reportLines (h : request.Answer files params documents m)
    (verbose : request.verbose = true) (ended : (runGenerate files request).ending.exitCode = 0) :
    (runGenerate files request).output = reportLines request files documents m := by
  have written : (writeModule files (files.resolve request.output) m).ending.exitCode = 0 := by
    rwa [h.sameEnd.1] at ended
  obtain ⟨s, -, made⟩ := h.exists_module
  have skipped : m.diagnostics.map (fun d => "  Skipped " ++ d.operation) =
      (reportedOperations (documents.map (·.document))).map (fun o =>
        "  Skipped " ++ operationName o) := by
    have names := congrArg (List.map ("  Skipped " ++ ·))
      (operation_diagnostics (request.settings params) s (documents.map (·.document)))
    rw [← made, List.map_map, List.map_map] at names
    exact names
  rw [h.output_eq, output_writeModule written, summaryLines, if_pos verbose, if_pos verbose,
    skipped]
  simp [reportLines]

/-- What is found out about loaded documents is so of those of an answer. -/
lemma Request.Answer.eq_true_of_loaded (h : request.Answer files params documents m)
    {p : List LoadedDocument → Bool}
    (found : (files.loadDocuments request.documents).result.toOption.map p = some true) :
    p documents = true := by
  rw [h.loaded] at found
  exact Option.some.inj found

/-- What is printed in a module are definitions of its documents. -/
lemma exists_definition_of_mem_constants {settings : Settings} {s : Strategy} {document : Document}
    (made : m = (compilerFor settings s document).module document) {k : DocumentConstant}
    (hk : k ∈ m.constants) : ∃ d ∈ document, k.body = d.text := by
  rcases List.mem_append.mp hk with fragment | operation
  · rw [fragments_eq made] at fragment
    obtain ⟨f, hf, rfl⟩ := List.mem_map.mp fragment
    have there := (mem_of_fragmentNamed? (mem_emittedFragments.mp hf)).1
    obtain ⟨d, hd, is⟩ := List.mem_filterMap.mp there
    refine ⟨d, hd, ?_⟩
    cases d <;> cases is
    rfl
  · obtain ⟨b, hb, rfl⟩ := List.mem_map.mp operation
    rw [made, bindings_module] at hb
    obtain ⟨o, ho, bound⟩ := List.mem_filterMap.mp hb
    obtain ⟨d, hd, is⟩ := List.mem_filterMap.mp ho
    refine ⟨d, hd, (body_binding bound).trans ?_⟩
    cases d <;> cases is
    rfl

/-- What a run that ends well prints if it is asked for more. The number of bindings is never too
small, and it is right if no printed definition holds what looks like the beginning of a hook and,
where there is a binding, neither the name of the function that is called nor the namespace does.
Operations called skipped are the subscriptions and whatever has no name; these are the operations
without a binding exactly if all queries and mutations have names. -/
theorem verbose_report (files : FileSystem) (arguments : List String) {request : Request}
    (requested : asked files arguments = .ok (.generate request))
    (verbose : request.verbose = true) (ended : (run files arguments).ending.exitCode = 0) :
    ∃ params loaded m s, request.Answer files params loaded m ∧
      Strategy.ofFetcher (request.settings params).fetcher = .ok s ∧
      files.OnlyWritten (files.resolve request.output) m.render.toUTF8 (run files arguments).files ∧
      (run files arguments).output = reportLines request files loaded m ∧
      let documents := loaded.map (·.document)
      List.Forall₂ (fun o b => b.hook.operation.name = operationName o ∧
        b.hook.operation.kind = o.kind) (boundOperations documents) m.bindings ∧
      m.bindings.length ≤ hookCount m.content ∧
      (hookCount m.content = m.bindings.length ↔
        (∀ k ∈ m.constants, ¬HoldsMark k.body.toList) ∧
        (m.bindings ≠ [] → ¬HoldsMark s.functionName.toList ∧
          ¬HoldsMark (request.importOperationTypesFrom?.getD "").toList)) ∧
      ((reportedOperations documents).map operationName =
          (unboundOperations documents).map operationName ↔
        ∀ o ∈ boundOperations documents, o.name? ≠ none) := by
  rw [run_of_asked requested] at ended ⊢
  obtain ⟨params, loaded, m, answer, only⟩ := answer_of_exitCode ended
  obtain ⟨s, chosen, made⟩ := answer.exists_module
  have output := answer.output_eq_reportLines verbose ended
  have usual : (request.settings params).UsualSuffixes := ⟨rfl, rfl⟩
  have inside : (request.settings params).externalFragments = [] := rfl
  have count := hookCount_module usual inside made
  refine ⟨params, loaded, m, s, answer, chosen, only, output, ?_, count.1, count.2,
    names_reportedOperations_eq_iff _⟩
  rw [made]
  refine (bindings_image _ _ _).imp fun o b h => ?_
  rw [(binding?_eq_some h).2.1]
  exact ⟨rfl, rfl⟩

/-- A folder with a schema and a file of operations. -/
def withOperations (text : String) : FileSystem where
  root := .folder
    [(⟨"schema.graphql".toList, by decide⟩, .file "type Query \x7b a: Int \x7d".toUTF8),
      (⟨"operations.gql".toList, by decide⟩, .file text.toUTF8)]
  here := []

/-- Arguments that ask for a module with these files, and for more lines. -/
def verboseArguments : List String :=
  ["generate", "-s", "schema.graphql", "-d", "operations.gql", "-o", "h.ts", "-v"]

/-- What the arguments ask for. -/
def verboseRequest : Request :=
  ⟨"schema.graphql", "operations.gql", "h.ts", "fetch", none, [], false, false, false, none, true⟩

/-- Whether no definition of documents holds what looks like the beginning of a hook and all
operations have names. -/
def isPlain (documents : List LoadedDocument) : Bool :=
  let document := (documents.map (·.document)).flatten
  document.all (fun d => !decide (HoldsMark d.text.toList))
    && (operationsOf document).all (fun o => o.name?.isSome)

set_option maxRecDepth 20000 in
/-- With names, and without anything that looks like a hook, the report is true: here of a query that
is bound and a subscription that is skipped. -/
theorem verbose_report_subscription :
    let files := withOperations "query Q \x7b a \x7d subscription S \x7b a \x7d"
    let o := run files verboseArguments
    asked files verboseArguments = .ok (.generate verboseRequest) ∧
      verboseRequest.verbose = true ∧ o.ending.exitCode = 0 ∧ "  Skipped S" ∈ o.output ∧
      ∃ params loaded m, verboseRequest.Answer files params loaded m ∧
        o.output = reportLines verboseRequest files loaded m ∧
        hookCount m.content = m.bindings.length ∧
        (reportedOperations (loaded.map (·.document))).map operationName =
          (unboundOperations (loaded.map (·.document))).map operationName := by
  intro files o
  have requested : asked files verboseArguments = .ok (.generate verboseRequest) := by
    decide +kernel
  have verbose : verboseRequest.verbose = true := rfl
  have ended : o.ending.exitCode = 0 := by decide +kernel
  have skipped : "  Skipped S" ∈ o.output := by decide +kernel
  have evaluated : (files.loadDocuments verboseRequest.documents).result.toOption.map isPlain =
      some true := by decide +kernel
  obtain ⟨params, loaded, m, s, answer, chosen, -, output, -, -, count, names⟩ :=
    verbose_report files verboseArguments requested verbose ended
  have plain := answer.eq_true_of_loaded evaluated
  rw [isPlain, Bool.and_eq_true, List.all_eq_true, List.all_eq_true] at plain
  obtain ⟨s', -, made⟩ := answer.exists_module
  refine ⟨requested, verbose, ended, skipped, params, loaded, m, answer, output, count.mpr ⟨?_, ?_⟩,
    names.mpr ?_⟩
  · intro k hk
    obtain ⟨d, hd, body⟩ := exists_definition_of_mem_constants made hk
    rw [body]
    simpa using plain.1 d hd
  · intro _
    cases chosen
    exact ⟨by decide, by decide⟩
  · intro op ho
    exact Option.isSome_iff_ne_none.mp (plain.2 op (List.mem_filter.mp ho).1)

/-- Whether the one operation of documents is a query that holds what looks like the beginning of a
hook. -/
def isMarkedQuery (documents : List LoadedDocument) : Bool :=
  match operationsOf (documents.map (·.document)).flatten with
  | [o] => o.kind == .query && decide (HoldsMark o.text.toList)
  | _ => false

set_option maxRecDepth 20000 in
/-- A query without a name that holds what looks like the beginning of a hook: it is bound and said
to be skipped, and the number of bindings is wrong. -/
theorem verbose_report_untrue :
    let files := withOperations "\x7b a(b: \"export const use\") \x7d"
    let o := run files verboseArguments
    o.ending.exitCode = 0 ∧ ∃ params loaded m, verboseRequest.Answer files params loaded m ∧
      files.OnlyWritten samplePlace m.render.toUTF8 o.files ∧
      o.output = reportLines verboseRequest files loaded m ∧
      m.bindings.length = 1 ∧ hookCount m.content ≠ 1 ∧
      unboundOperations (loaded.map (·.document)) = [] ∧ "  Skipped " ∈ o.output := by
  intro files o
  have requested : asked files verboseArguments = .ok (.generate verboseRequest) := by
    decide +kernel
  have ended : o.ending.exitCode = 0 := by decide +kernel
  have evaluated : (files.loadDocuments verboseRequest.documents).result.toOption.map
      isMarkedQuery = some true := by decide +kernel
  have skipped : "  Skipped " ∈ o.output := by decide +kernel
  have place : files.resolve verboseRequest.output = samplePlace := by decide
  have same : o = runGenerate files verboseRequest := run_of_asked requested
  rw [same] at ended skipped ⊢
  obtain ⟨params, loaded, m, answer, only⟩ := answer_of_exitCode ended
  obtain ⟨s, -, made⟩ := answer.exists_module
  obtain ⟨query, one, kind, holds⟩ : ∃ query, operationsOf (loaded.map (·.document)).flatten =
      [query] ∧ query.kind = .query ∧ HoldsMark query.text.toList := by
    have marked := answer.eq_true_of_loaded evaluated
    rw [isMarkedQuery] at marked
    split at marked
    · next query one =>
      rw [Bool.and_eq_true, beq_iff_eq, decide_eq_true_eq] at marked
      exact ⟨query, one, marked.1, marked.2⟩
    · cases marked
  have image := bindings_image (verboseRequest.settings params) s
    (loaded.map (·.document)).flatten
  rw [← made, one, List.filter_singleton, kind] at image
  have unbound : unboundOperations (loaded.map (·.document)) = [] := by
    rw [unboundOperations, one, List.filter_singleton, kind]
    rfl
  have length : m.bindings.length = 1 := image.length_eq.symm
  refine ⟨ended, params, loaded, m, answer, place ▸ only,
    answer.output_eq_reportLines rfl ended, length, ?_, unbound, skipped⟩
  intro right
  have usual : (verboseRequest.settings params).UsualSuffixes := ⟨rfl, rfl⟩
  have inside : (verboseRequest.settings params).externalFragments = [] := rfl
  have bodies := ((hookCount_module usual inside made).2.mp (right.trans length.symm)).1
  obtain ⟨b, only_one⟩ := List.length_eq_one_iff.mp length
  rw [only_one] at image
  obtain ⟨bound, -⟩ := List.forall₂_cons.mp image
  have constant : b.document ∈ m.constants := by
    rw [GeneratedModule.constants, only_one]
    simp
  exact bodies b.document constant (body_binding bound ▸ holds)

end CommandLine

end OperationHooks
