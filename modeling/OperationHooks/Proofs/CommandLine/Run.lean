import OperationHooks.CommandLine.Run
import OperationHooks.Proofs.CommandLine.Fetching
import OperationHooks.Proofs.Compilation.Run
import OperationHooks.Proofs.Files.Writing
import OperationHooks.Proofs.Loading

/-!
# What a run leaves behind

A run writes one file or none. It comes to the writing only after everything else has gone well, so
files change in no other run. The file is opened before its text is encoded: a module with half of a
surrogate pair in it empties the file and fails.
-/

namespace OperationHooks

namespace CommandLine

variable {files : FileSystem} {request : Request} {params : List (String × Json)}
  {fetcher : Json} {m : GeneratedModule}

/-! ### Options of a request -/

/-- The settings that a request stands for, given its request options. -/
def Request.settings (request : Request) (params : List (String × Json)) : Settings :=
  { Settings.default with
    fetcher :=
      namedFetcher request.fetcher request.endpoint? params request.lazyVariables
    exposeQueryKeys := request.exposeQueryKeys
    omitOperationSuffix := request.omitOperationSuffix
    importOperationTypesFrom := request.importOperationTypesFrom? }

lemma Request.fetcherOption_eq_ok (h : request.fetcherOption = .ok fetcher) :
    ∃ params, CommandLine.fetchParams request.fetchParams = .ok params ∧
      CommandLine.fetcherOption request.fetcher request.endpoint? params request.lazyVariables =
        .ok fetcher := by
  rw [Request.fetcherOption] at h
  split at h
  · cases h
  · next params given =>
    refine ⟨params, given, ?_⟩
    cases made : CommandLine.fetcherOption request.fetcher request.endpoint? params
        request.lazyVariables with
    | error misuse => simp [made, Except.mapError] at h
    | ok option => simpa [made, Except.mapError] using h

/-- Accepted options of a request are decoded to the settings that it stands for. -/
lemma Request.settings_options {settings : Settings}
    (made : CommandLine.fetcherOption request.fetcher request.endpoint? params
      request.lazyVariables = .ok fetcher)
    (accepted : Decode.settings (request.options fetcher) = .accepted settings) :
    settings = request.settings params := by
  have decoded : Decode.settingsMembers (Decode.members (request.options fetcher)) =
      .accepted settings := Decode.settingsMembers_of_accepted accepted
  obtain ⟨f, e, o, i, x, d, s, h⟩ := Decode.settingsMembers_eq_accepted_iff.mp decoded
  have fetched := namedFetcher_of_accepted made (Decode.under_eq_accepted_iff.mp f)
  have imported : settings.importOperationTypesFrom = request.importOperationTypesFrom? := by
    cases given : request.importOperationTypesFrom? with
    | none =>
      rw [Request.options, given] at i
      exact (Decoded.accepted.inj i).symm
    | some name =>
      rw [Request.options, given] at i
      exact (Decoded.accepted.inj i).symm
  rw [Request.settings, Settings.mk.injEq]
  exact ⟨fetched, (Decoded.accepted.inj e).symm, (Decoded.accepted.inj o).symm, imported,
    (Decoded.accepted.inj x).symm, (Decoded.accepted.inj d).symm, (Decoded.accepted.inj s).symm,
    (Decoded.accepted.inj h).symm⟩

/-! ### Stages -/

/-- An outcome without success and without a change. -/
def Outcome.Stopped (files : FileSystem) (o : Outcome) : Prop :=
  o.files = files ∧ o.ending.exitCode ≠ 0

/-- What a request comes to when everything up to the writing goes well: its request options, the
loaded documents, and the module. -/
structure Request.Answer (files : FileSystem) (request : Request) (params : List (String × Json))
    (documents : List LoadedDocument) (m : GeneratedModule) : Prop where
  given : CommandLine.fetchParams request.fetchParams = .ok params
  supported : Path.suffix (Path.ofNames (files.resolve request.output)) = ".ts" ∨
    Path.suffix (Path.ofNames (files.resolve request.output)) = ".tsx"
  schema : ∃ schema, (files.loadSchema request.schema).result = .ok schema
  loaded : (files.loadDocuments request.documents).result = .ok documents
  sorted : documents.Pairwise (fun d d' => d.path ≤ d'.path)
  generated : ∃ fetcher, request.fetcherOption = .ok fetcher ∧
    Decode.settings (request.options fetcher) = .accepted (request.settings params) ∧
    generate (request.options fetcher) (documents.map (·.document)) = .ok m

@[simp] lemma Outcome.output_after (o : Outcome) (output log : List String) :
    (o.after output log).output = output ++ o.output := rfl

@[simp] lemma Outcome.ending_after (o : Outcome) (output log : List String) :
    (o.after output log).ending = o.ending := rfl

@[simp] lemma Outcome.files_after (o : Outcome) (output log : List String) :
    (o.after output log).files = o.files := rfl

/-- Two outcomes that differ in nothing but what is printed. -/
def Outcome.SameEnd (o o' : Outcome) : Prop := o.ending = o'.ending ∧ o.files = o'.files

lemma Outcome.SameEnd.stopped {o o' : Outcome} (h : o.SameEnd o') (h' : o'.Stopped files) :
    o.Stopped files := ⟨h.2.trans h'.1, h.1 ▸ h'.2⟩

lemma suffix_of_check {file : String} {u : Unit} (h : OutputFile.check file = .ok u) :
    Path.suffix file = ".ts" ∨ Path.suffix file = ".tsx" := by
  rw [OutputFile.check] at h
  split_ifs at h with supported
  simpa [OutputFile.isSupported, OutputFile.suffixes] using supported

lemma exitCode_ofLoadError (e : LoadError) : (Ending.ofLoadError e).exitCode ≠ 0 := by
  cases e <;> simp [Ending.ofLoadError, Ending.exitCode]

lemma exitCode_ofItemFault (e : ItemFault) : (Ending.ofItemFault e).exitCode ≠ 0 := by
  cases e <;> simp [Ending.ofItemFault, Ending.exitCode]

lemma exitCode_ofGenerationError (e : GenerationError) :
    (Ending.ofGenerationError e).exitCode ≠ 0 := by
  cases e <;> simp [Ending.ofGenerationError, Ending.exitCode]

lemma withSchema_cases (next : Schema → Outcome) :
    (withSchema files request next).Stopped files ∨
      ∃ schema, (files.loadSchema request.schema).result = .ok schema ∧
        (withSchema files request next).SameEnd (next schema) := by
  rw [withSchema]
  split
  · next e failed => exact .inl ⟨rfl, exitCode_ofLoadError e⟩
  · next schema loaded => exact .inr ⟨schema, loaded, rfl, rfl⟩

lemma withDocuments_cases (next : List LoadedDocument → Outcome) :
    (withDocuments files request next).Stopped files ∨
      ∃ documents, (files.loadDocuments request.documents).result = .ok documents ∧
        (withDocuments files request next).SameEnd (next documents) := by
  rw [withDocuments]
  split
  · next e failed => exact .inl ⟨rfl, exitCode_ofLoadError e⟩
  · next documents loaded => exact .inr ⟨documents, loaded, rfl, rfl⟩

lemma generateModule_cases {options : Json} {place : List FileName}
    {documents : List LoadedDocument} :
    (generateModule files request options place documents).Stopped files ∨
      ∃ m, generate options (documents.map (·.document)) = .ok m := by
  rw [generateModule]
  split
  · next e failed => exact .inl ⟨rfl, exitCode_ofGenerationError e⟩
  · next m generated => exact .inr ⟨m, generated⟩

/-- Writing stops before it changes anything, or changes one file; it fails all the same if the
module is no text. -/
lemma writeModule_cases {place : List FileName} :
    (writeModule files place m).Stopped files ∨
      files.OnlyWritten place (bytesOf m) (writeModule files place m).files ∧
        (writeModule files place m).ending = if m.isWhole then .finished else .broken .torn := by
  rw [writeModule]
  cases changed : files.put place (bytesOf m) with
  | error fault => cases fault <;> exact .inl ⟨rfl, Nat.one_ne_zero⟩
  | ok written =>
    have only := FileSystem.put_eq_ok changed
    cases whole : m.isWhole with
    | true => exact .inr ⟨only, rfl⟩
    | false => exact .inr ⟨only, rfl⟩

/-- A request is answered where every stage has come to something. -/
lemma exists_answer {documents : List LoadedDocument} {schema : Schema} {u : Unit}
    (fetched : request.fetcherOption = .ok fetcher)
    (supported : OutputFile.check (Path.ofNames (files.resolve request.output)) = .ok u)
    (hasSchema : (files.loadSchema request.schema).result = .ok schema)
    (loaded : (files.loadDocuments request.documents).result = .ok documents)
    (generated : generate (request.options fetcher) (documents.map (·.document)) = .ok m) :
    ∃ params documents m, request.Answer files params documents m := by
  obtain ⟨params, given, made⟩ := Request.fetcherOption_eq_ok fetched
  obtain ⟨settings, s, accepted, -⟩ := generate_eq_ok_iff.mp generated
  have denoted := Request.settings_options made accepted
  refine ⟨params, documents, m, ?_⟩
  exact {
    given
    supported := suffix_of_check supported
    schema := ⟨schema, hasSchema⟩
    loaded
    sorted := FileSystem.pairwise_loadSources loaded
    generated := ⟨fetcher, fetched, denoted ▸ accepted, generated⟩ }

/-- Without a module to write, files stay as they are. -/
lemma stopped_or_answer (files : FileSystem) (request : Request) :
    (runGenerate files request).Stopped files ∨
      ∃ params documents m, request.Answer files params documents m := by
  rw [runGenerate]
  split
  · next e failed => exact .inl ⟨rfl, exitCode_ofItemFault e⟩
  next fetcher fetched =>
  dsimp only
  split
  · exact .inl ⟨rfl, Nat.one_ne_zero⟩
  next supported =>
  rcases withSchema_cases _ with stopped | ⟨schema, hasSchema, same⟩
  · exact .inl stopped
  rcases withDocuments_cases _ with stopped | ⟨documents, loaded, same'⟩
  · exact .inl (same.stopped stopped)
  rcases generateModule_cases with stopped | ⟨m, generated⟩
  · exact .inl (same.stopped (same'.stopped stopped))
  exact .inr (exists_answer fetched supported hasSchema loaded generated)

/-- Where everything up to the writing goes well, all stages are passed. -/
lemma Request.Answer.runGenerate_eq {documents : List LoadedDocument}
    (h : request.Answer files params documents m) :
    runGenerate files request =
      (((((writeModule files (files.resolve request.output) m).after (summaryLines request m)
          (m.diagnostics.map Diagnostic.line)).after
        ((if request.verbose then ["  Documents: " ++ toString documents.length] else [])
          ++ ["Generating hooks..."])
        (openedLines request .documents (files.loadDocuments request.documents).opened)).after
        ["Parsing documents..."]
        (openedLines request .schema (files.loadSchema request.schema).opened)).after
        ["Parsing schema..."] []) := by
  obtain ⟨schema, hasSchema⟩ := h.schema
  obtain ⟨fetcher, fetched, -, generated⟩ := h.generated
  have supported : OutputFile.check (Path.ofNames (files.resolve request.output)) = .ok () := by
    rw [OutputFile.check, if_pos]
    simpa [OutputFile.isSupported, OutputFile.suffixes] using h.supported
  rw [runGenerate, fetched]
  dsimp only
  rw [supported]
  dsimp only
  rw [withSchema, hasSchema]
  dsimp only
  rw [withDocuments, h.loaded]
  dsimp only
  rw [generateModule, generated]

/-- Where everything up to the writing goes well, the writing is what counts. -/
lemma Request.Answer.sameEnd {documents : List LoadedDocument}
    (h : request.Answer files params documents m) :
    (runGenerate files request).SameEnd (writeModule files (files.resolve request.output) m) := by
  rw [h.runGenerate_eq]
  constructor
  · simp only [Outcome.ending_after]
  · simp only [Outcome.files_after]

/-- The module of an answer, by the settings that the request stands for. -/
lemma Request.Answer.exists_module {documents : List LoadedDocument}
    (h : request.Answer files params documents m) :
    ∃ s, Strategy.ofFetcher (request.settings params).fetcher = .ok s ∧
      m = (compilerFor (request.settings params) s (documents.map (·.document)).flatten).module
        (documents.map (·.document)).flatten := by
  obtain ⟨fetcher, -, accepted, generated⟩ := h.generated
  obtain ⟨settings, s, accepted', chosen, -, made⟩ := generate_eq_ok_iff.mp generated
  cases accepted.symm.trans accepted'
  exact ⟨s, chosen, made⟩

/-! ### Modules that are no text -/

/-- A helper is a text exactly if no request option is torn. -/
lemma isWhole_of_namedFetcher {fetcher : String} {endpoint? : Option String} {isLazy : Bool}
    {option : Json} {s : Strategy}
    (made : CommandLine.fetcherOption fetcher endpoint? params isLazy = .ok option)
    (chosen : Strategy.ofFetcher (namedFetcher fetcher endpoint? params isLazy) = .ok s) :
    s.isWhole = Json.haveWhole params := by
  rcases placed_or_nowhere endpoint? with ⟨endpoint, rfl, placed⟩ | nowhere
  · rw [namedFetcher_endpoint placed] at chosen
    cases chosen
    rfl
  · rw [fetcherOption_nowhere nowhere] at made
    have none : params = [] := by
      by_contra some
      rw [if_pos some] at made
      cases made
    rw [none]
    rw [namedFetcher_nowhere nowhere] at chosen
    split_ifs at chosen
    · cases chosen
      rfl
    · cases chosen
      rfl
    · rw [Strategy.ofFetcher] at chosen
      split at chosen
      · cases chosen
        rfl
      · cases chosen

/-- The module of an answer is a text exactly if no request option is torn. -/
lemma Request.Answer.isWhole_eq {documents : List LoadedDocument}
    (h : request.Answer files params documents m) : m.isWhole = Json.haveWhole params := by
  obtain ⟨fetcher, fetched, -⟩ := h.generated
  obtain ⟨params', given, made⟩ := Request.fetcherOption_eq_ok fetched
  cases given.symm.trans h.given
  obtain ⟨s, chosen, rfl⟩ := h.exists_module
  exact isWhole_of_namedFetcher made chosen

/-! ### Runs -/

/-- All that an answer to a request can come to. -/
lemma runGenerate_outcome (files : FileSystem) (request : Request) :
    (runGenerate files request).Stopped files ∨
      ∃ params documents m, request.Answer files params documents m ∧
        ((runGenerate files request).ending.exitCode = 0 ∧ Json.haveWhole params = true ∧
            files.OnlyWritten (files.resolve request.output) m.render.toUTF8
              (runGenerate files request).files ∨
          (runGenerate files request).ending.exitCode ≠ 0 ∧ Json.haveWhole params = false ∧
            files.OnlyWritten (files.resolve request.output) .empty
              (runGenerate files request).files) := by
  rcases stopped_or_answer files request with stopped | ⟨params, documents, m, answer⟩
  · exact .inl stopped
  have same := answer.sameEnd
  rcases writeModule_cases with stopped | ⟨only, ending⟩
  · exact .inl (same.stopped stopped)
  refine .inr ⟨params, documents, m, answer, ?_⟩
  rw [same.1, same.2, ending, ← answer.isWhole_eq]
  rw [bytesOf] at only
  cases whole : m.isWhole with
  | true =>
    rw [whole] at only
    exact .inl ⟨rfl, rfl, only⟩
  | false =>
    rw [whole] at only
    exact .inr ⟨Nat.one_ne_zero, rfl, only⟩

/-- A module that is a text is written if its place can be written to. -/
lemma exitCode_of_answer {documents : List LoadedDocument} {written : FileSystem}
    (answer : request.Answer files params documents m) (whole : Json.haveWhole params = true)
    (fits : files.put (files.resolve request.output) m.render.toUTF8 = .ok written) :
    (runGenerate files request).ending.exitCode = 0 := by
  have isWhole : m.isWhole = true := answer.isWhole_eq.trans whole
  have bytes : bytesOf m = m.render.toUTF8 := if_pos isWhole
  rw [answer.sameEnd.1, writeModule, bytes, fits]
  dsimp only
  rw [if_pos isWhole]
  rfl

/-- What arguments ask for, among files. -/
def asked (files : FileSystem) (arguments : List String) : Except UsageError Invocation :=
  Invocation.read (fun path => (files.find? path).isSome) arguments

lemma run_of_asked {arguments : List String}
    (requested : asked files arguments = .ok (.generate request)) :
    run files arguments = runGenerate files request := by
  rw [asked] at requested
  rw [run, requested]

/-- A run that ends well has written the module for the loaded schema and the loaded documents, in
the order of their paths, to a file of its kind, and nothing else; or it was asked for help or the
version. A run that ends in any other way has left all files as they were, but for a torn request
option: then the output is empty. If there is a module without one, the run ends well wherever the
output can be written. -/
theorem run_all_or_nothing (files : FileSystem) (arguments : List String) :
    ((run files arguments).ending.exitCode = 0 →
      (asked files arguments = .ok .version ∨ ∃ c, asked files arguments = .ok (.help c)) ∧
          (run files arguments).files = files ∨
        ∃ request params documents m, asked files arguments = .ok (.generate request) ∧
          request.Answer files params documents m ∧ Json.haveWhole params = true ∧
          files.OnlyWritten (files.resolve request.output) m.render.toUTF8
            (run files arguments).files) ∧
    ((run files arguments).ending.exitCode ≠ 0 →
      (run files arguments).files = files ∨
        ∃ request params documents m, asked files arguments = .ok (.generate request) ∧
          request.Answer files params documents m ∧ Json.haveWhole params = false ∧
          files.OnlyWritten (files.resolve request.output) .empty (run files arguments).files) ∧
    ∀ request params documents m written, asked files arguments = .ok (.generate request) →
      request.Answer files params documents m → Json.haveWhole params = true →
      files.put (files.resolve request.output) m.render.toUTF8 = .ok written →
      (run files arguments).ending.exitCode = 0 := by
  rw [run]
  split
  · next e misused =>
    refine ⟨fun ended => absurd ended (Nat.succ_ne_zero 1), fun _ => .inl rfl, ?_⟩
    intro request params documents m written requested
    cases misused.symm.trans requested
  · next c help =>
    refine ⟨fun _ => .inl ⟨.inr ⟨c, help⟩, rfl⟩, fun _ => .inl rfl, ?_⟩
    intro request params documents m written requested
    cases help.symm.trans requested
  · next version =>
    refine ⟨fun _ => .inl ⟨.inl version, rfl⟩, fun _ => .inl rfl, ?_⟩
    intro request params documents m written requested
    cases version.symm.trans requested
  next request requested =>
  rw [← and_assoc]
  refine ⟨?_, ?_⟩
  · rcases runGenerate_outcome files request with stopped | ⟨params, documents, m, answer,
      ⟨ended, whole, only⟩ | ⟨failed, torn, emptied⟩⟩
    · exact ⟨fun ended => absurd ended stopped.2, fun _ => .inl stopped.1⟩
    · refine ⟨fun _ => .inr ?_, fun failed => absurd ended failed⟩
      exact ⟨request, params, documents, m, requested, answer, whole, only⟩
    · refine ⟨fun ended => absurd ended failed, fun _ => .inr ?_⟩
      exact ⟨request, params, documents, m, requested, answer, torn, emptied⟩
  · intro request' params documents m written requested' answer whole fits
    cases requested.symm.trans requested'
    exact exitCode_of_answer answer whole fits

/-- A folder with a schema, a query, and the output of an earlier run. -/
def sampleFiles : FileSystem where
  root := .folder
    [(⟨"s.graphql".toList, by decide⟩, .file "type Query \x7b a: Int \x7d".toUTF8),
      (⟨"o.gql".toList, by decide⟩, .file "query Q \x7b a \x7d".toUTF8),
      (⟨"h.ts".toList, by decide⟩, .file "export const useOld = 1;\n".toUTF8)]
  here := []

/-- The place of the earlier output. -/
def samplePlace : List FileName := [⟨"h.ts".toList, by decide⟩]

/-- Arguments that ask for a module with these files, and some more. -/
def sampleArguments (more : List String) : List String :=
  ["generate", "-s", "s.graphql", "-d", "o.gql", "-o", "h.ts"] ++ more

/-- What the arguments ask for. -/
def sampleRequest : Request :=
  ⟨"s.graphql", "o.gql", "h.ts", "fetch", none, [], false, false, false, none, false⟩

set_option maxRecDepth 20000 in
theorem run_all_or_nothing_sample :
    (run sampleFiles (sampleArguments [])).ending.exitCode = 0 ∧
      ∃ params documents m, sampleRequest.Answer sampleFiles params documents m ∧
        sampleFiles.OnlyWritten samplePlace m.render.toUTF8
          (run sampleFiles (sampleArguments [])).files := by
  have ended : (run sampleFiles (sampleArguments [])).ending.exitCode = 0 := by decide +kernel
  have requested : asked sampleFiles (sampleArguments []) = .ok (.generate sampleRequest) := by
    decide +kernel
  have place : sampleFiles.resolve sampleRequest.output = samplePlace := by decide
  refine ⟨ended, ?_⟩
  rcases (run_all_or_nothing sampleFiles (sampleArguments [])).1 ended with
    ⟨version | ⟨c, help⟩, -⟩ | ⟨request, params, documents, m, requested', answer, -, only⟩
  · cases requested.symm.trans version
  · cases requested.symm.trans help
  · cases requested.symm.trans requested'
    exact ⟨params, documents, m, answer, place ▸ only⟩

set_option maxRecDepth 20000 in
/-- A torn request option empties what an earlier run has written. -/
theorem output_emptied :
    let o := run sampleFiles
      (sampleArguments ["--endpoint", "API_URL", "--fetch-param", "a=\"\\ud800\""])
    o.ending.exitCode = 1 ∧
      sampleFiles.content? samplePlace = some "export const useOld = 1;\n".toUTF8 ∧
      o.files.content? samplePlace = some .empty := by
  refine ⟨?_, ?_, ?_⟩
  · decide +kernel
  · decide +kernel
  · decide +kernel

end CommandLine

end OperationHooks
