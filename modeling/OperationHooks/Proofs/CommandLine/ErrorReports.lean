import OperationHooks.Proofs.CommandLine.RequestOptions
import OperationHooks.Proofs.CommandLine.Run
import OperationHooks.Proofs.Compilation.Failure
import OperationHooks.Proofs.Files.Collection

/-!
# How faults are reported

A run that finds something wrong says so in a line that starts with `Error:`, and ends with a code
of its own. Where all files hold texts, two things are found without being reported: an integer with
too many digits in a request option, and faults in the definitions of a schema whose files can all
be read. A source that cannot be read is reported, whichever file it is in, and so are options that
are refused.
-/

namespace OperationHooks

/-! ### Files of text -/

namespace FileNode

lemma find?_append {node below : FileNode} {names : List FileName}
    (h : node.find? names = some below) (more : List FileName) :
    node.find? (names ++ more) = below.find? more := by
  induction names generalizing node with
  | nil =>
    cases node <;> cases h <;> rfl
  | cons name names ih =>
    cases node with
    | file content => cases h
    | folder entries =>
      rw [find?] at h
      obtain ⟨child, held, h⟩ := Option.bind_eq_some_iff.mp h
      rw [List.cons_append, find?, held, Option.bind_some, ih h]

end FileNode

namespace FileSystem

variable {files : FileSystem} {path : String} {endings : List String} {kind : SourceKind}

/-- All files are UTF-8. -/
def HoldsTexts (files : FileSystem) : Prop :=
  ∀ place content, files.content? place = some content → content.IsValidUTF8

lemma holdsTexts_iff : files.HoldsTexts ↔ ∀ f ∈ files.root.files, f.2.IsValidUTF8 := by
  constructor
  · intro texts f hf
    exact texts f.1 f.2 ((FileNode.mem_files _ f).mp hf)
  · intro texts place content there
    exact texts (place, content) ((FileNode.mem_files _ _).mpr there)

instance (files : FileSystem) : Decidable files.HoldsTexts := decidable_of_iff' _ holdsTexts_iff

/-- What a path leads to stands at a place. -/
lemma exists_find?_of_follow {root node : FileNode} {place : List FileName} {steps : List Step}
    (h : follow root place steps = some node) : ∃ names, root.find? names = some node := by
  induction steps generalizing place with
  | nil => exact ⟨place, h⟩
  | cons step steps ih =>
    rw [follow] at h
    split at h
    · exact ih h
    · cases h

/-- What is collected are files of the file system. -/
lemma exists_content?_of_mem_collect {f : FoundFile} (h : f ∈ files.collect path endings) :
    ∃ place, files.content? place = some f.content := by
  cases found : files.find? path with
  | none => simp [collect, found] at h
  | some node =>
    have stands : ∃ names, files.root.find? names = some node := by
      rw [find?] at found
      split_ifs at found
      exact exists_find?_of_follow found
    obtain ⟨names, stands⟩ := stands
    cases node with
    | file content =>
      have same : f = ⟨path, content⟩ := by
        rw [collect, found] at h
        dsimp only at h
        split_ifs at h
        · exact List.mem_singleton.mp h
        · cases h
      refine ⟨names, ?_⟩
      rw [content?, FileNode.content?, stands, same]
    | folder entries =>
      obtain ⟨below, name, there, -⟩ := (mem_collect_folder found f).mp h
      refine ⟨names ++ (below ++ [name]), ?_⟩
      rw [content?, FileNode.content?, FileNode.find?_append stands]
      exact there

lemma HoldsTexts.text (texts : files.HoldsTexts) {f : FoundFile}
    (h : f ∈ files.collect path endings) : ∃ text, f.text = .ok text := by
  obtain ⟨place, there⟩ := exists_content?_of_mem_collect h
  have valid : String.fromUTF8? f.content = some _ := dif_pos (texts place f.content there)
  exact ⟨_, by rw [FoundFile.text, readUtf8, valid]⟩

end FileSystem

/-! ### Errors of loading -/

/-- One of the files is at fault if documents cannot be read. -/
lemma readDocuments_eq_error {fs : List FoundFile} {e : LoadError}
    (h : (readDocuments fs).result = .error e) : ∃ f ∈ fs, f.load = .error e := by
  induction fs with
  | nil => cases h
  | cons f fs ih =>
    rw [readDocuments] at h
    split at h
    · next e' failed =>
      cases h
      exact ⟨f, List.mem_cons_self, failed⟩
    · next d loaded =>
      dsimp only at h
      cases rest : (readDocuments fs).result with
      | ok ds => simp [rest, Except.map] at h
      | error e' =>
        rw [rest] at h
        cases h
        obtain ⟨f', hf', failed⟩ := ih rest
        exact ⟨f', List.mem_cons_of_mem f hf', failed⟩

/-- A file that cannot be loaded holds no text, or one that is no document. -/
lemma FoundFile.load_eq_error {f : FoundFile} {e : LoadError} (h : f.load = .error e) :
    (f.text = .error e ∧ ∃ fault, e = .notText fault) ∨
      ∃ text fault, Document.read text = .error fault ∧ e = .unreadable text fault := by
  rw [load] at h
  split at h
  · next e' failed =>
    cases h
    rw [text] at failed ⊢
    split at failed
    · cases failed
    · next fault broken =>
      cases failed
      exact .inl ⟨rfl, fault, rfl⟩
  · next text holds =>
    split at h
    · cases h
    · next fault failed =>
      cases h
      exact .inr ⟨text, fault, failed, rfl⟩

lemma FileSystem.loadSources_eq_error {files : FileSystem} {kind : SourceKind} {path : String}
    {e : LoadError} (h : (files.loadSources kind path).result = .error e) :
    e = .nothingFound kind path ∨
      (∃ f ∈ files.collect path kind.endings, f.text = .error e ∧ ∃ fault, e = .notText fault) ∨
      ∃ text fault, Document.read text = .error fault ∧ e = .unreadable text fault := by
  rw [loadSources] at h
  split at h
  · cases h
    exact .inl rfl
  · obtain ⟨f, hf, failed⟩ := readDocuments_eq_error h
    rcases f.load_eq_error failed with noText | noDocument
    · exact .inr (.inl ⟨f, hf, noText⟩)
    · exact .inr (.inr noDocument)

/-- Definitions are refused for faults exactly if they have some. -/
lemma Schema.ofDocument_eq_faulty_iff {document : Document} {faults : List SchemaFault} :
    ofDocument document = .error (.faulty faults) ↔
      schemaFaults document = faults ∧ faults ≠ [] := by
  rw [ofDocument]
  cases schemaFaults document with
  | nil =>
    cases AssemblyError.of? document with
    | none => simp [eq_comm]
    | some e => simp [eq_comm]
  | cons fault rest =>
    constructor
    · intro h
      cases h
      exact ⟨rfl, List.cons_ne_nil fault rest⟩
    · rintro ⟨rfl, -⟩
      rfl

/-- A schema cannot be loaded if its sources cannot, or if the definitions in them are refused. -/
lemma FileSystem.loadSchema_eq_error_iff {files : FileSystem} {path : String} {e : LoadError} :
    (files.loadSchema path).result = .error e ↔
      (files.loadSources .schema path).result = .error e ∨
        ∃ documents refused, (files.loadSources .schema path).result = .ok documents ∧
          Schema.ofDocument (documents.flatMap (·.document)) = .error refused ∧
          e = .ofRefused documents refused := by
  rw [loadSchema]
  cases (files.loadSources .schema path).result with
  | error e' => simp
  | ok documents =>
    cases checked : Schema.ofDocument (documents.flatMap (·.document)) with
    | ok schema => simp [checked, Except.mapError]
    | error refused => simp [checked, Except.mapError, eq_comm]

/-- A schema is bad exactly if its files can be read and the definitions in them have faults. -/
lemma FileSystem.loadSchema_eq_badSchema_iff {files : FileSystem} {path : String}
    {faults : List SchemaFault} :
    (files.loadSchema path).result = .error (.badSchema faults) ↔
      ∃ documents, (files.loadSources .schema path).result = .ok documents ∧
        schemaFaults (documents.flatMap (·.document)) = faults ∧ faults ≠ [] := by
  simp only [← Schema.ofDocument_eq_faulty_iff]
  rw [loadSchema_eq_error_iff]
  constructor
  · rintro (failed | ⟨documents, refused, loaded, checked, same⟩)
    · rcases loadSources_eq_error failed with h | ⟨_, -, -, _, h⟩ | ⟨_, _, -, h⟩
      · cases h
      · cases h
      · cases h
    · refine ⟨documents, loaded, ?_⟩
      cases refused with
      | faulty faults' =>
        cases same
        exact checked
      | unassembled e => cases same
  · rintro ⟨documents, loaded, checked⟩
    exact .inr ⟨documents, .faulty faults, loaded, checked, rfl⟩

namespace CommandLine

variable {files : FileSystem} {request : Request} {params : List (String × Json)}
  {documents : List LoadedDocument} {m : GeneratedModule} {kind : SourceKind} {path : String}

/-- Sources that cannot be loaded are reported, if they are texts. -/
lemma ofLoadError_loadSources (texts : files.HoldsTexts) {e : LoadError}
    (h : (files.loadSources kind path).result = .error e) :
    ∃ message, Ending.ofLoadError e = .failed message := by
  rcases FileSystem.loadSources_eq_error h with rfl | ⟨f, hf, noText, -⟩ | ⟨text, fault, -, rfl⟩
  · exact ⟨_, rfl⟩
  · obtain ⟨text, holds⟩ := texts.text hf
    cases noText.symm.trans holds
  · exact ⟨_, rfl⟩

/-- A schema that cannot be loaded is reported, unless its files can be read and the definitions in
them have faults. -/
lemma ofLoadError_loadSchema (texts : files.HoldsTexts) {e : LoadError}
    (h : (files.loadSchema path).result = .error e) :
    (∃ message, Ending.ofLoadError e = .failed message) ∨ ∃ faults, e = .badSchema faults := by
  rcases FileSystem.loadSchema_eq_error_iff.mp h with failed | ⟨documents, refused, -, -, rfl⟩
  · exact .inl (ofLoadError_loadSources texts failed)
  · cases refused with
    | faulty faults => exact .inr ⟨faults, rfl⟩
    | unassembled e => exact .inl ⟨_, rfl⟩

/-! ### What a run stops at -/

/-- Nothing is wrong with the fetching options of a request and with the output that it names. -/
structure Request.ComesToSchema (files : FileSystem) (request : Request) : Prop where
  fetched : ∃ fetcher, request.fetcherOption = .ok fetcher
  supported : Path.suffix (Path.ofNames (files.resolve request.output)) = ".ts" ∨
    Path.suffix (Path.ofNames (files.resolve request.output)) = ".tsx"

/-- A request comes to its schema, whose files can all be read, and the definitions in them have
faults. -/
structure Request.MeetsFaults (files : FileSystem) (request : Request)
    (faults : List SchemaFault) : Prop extends request.ComesToSchema files where
  read : ∃ documents, (files.loadSources .schema request.schema).result = .ok documents ∧
    schemaFaults (documents.flatMap (·.document)) = faults
  faulty : faults ≠ []

lemma Request.MeetsFaults.loadSchema_eq {faults : List SchemaFault}
    (h : request.MeetsFaults files faults) :
    (files.loadSchema request.schema).result = .error (.badSchema faults) := by
  obtain ⟨documents, loaded, found⟩ := h.read
  exact FileSystem.loadSchema_eq_badSchema_iff.mpr ⟨documents, loaded, found, h.faulty⟩

/-- What is wrong with a request, and the ending of the run that stops there. -/
inductive Request.Stops (files : FileSystem) (request : Request) : Ending → Prop
  | options {e : ItemFault} (unread : request.fetcherOption = .error e) :
    Stops files request (.ofItemFault e)
  | output {u : OutputFile.Unsupported}
    (unsupported : OutputFile.check (Path.ofNames (files.resolve request.output)) = .error u) :
    Stops files request (.failed u.message)
  | schema {e : LoadError} (reached : request.ComesToSchema files)
    (unloaded : (files.loadSchema request.schema).result = .error e) :
    Stops files request (.ofLoadError e)
  | documents {e : LoadError}
    (unloaded : (files.loadDocuments request.documents).result = .error e) :
    Stops files request (.ofLoadError e)
  | generation {fetcher : Json} {documents : List LoadedDocument} {e : GenerationError}
    (fetched : request.fetcherOption = .ok fetcher)
    (ungenerated : generate (request.options fetcher) (documents.map (·.document)) = .error e) :
    Stops files request (.ofGenerationError e)

/-- A run stops at something that is wrong, or everything goes well up to the writing. -/
lemma stops_or_answer (files : FileSystem) (request : Request) :
    request.Stops files (runGenerate files request).ending ∨
      ∃ params documents m, request.Answer files params documents m := by
  rw [runGenerate]
  split
  · next e unread => exact .inl (.options unread)
  next fetcher fetched =>
  dsimp only
  split
  · next u unsupported => exact .inl (.output unsupported)
  next supported =>
  have reached : request.ComesToSchema files := ⟨⟨fetcher, fetched⟩, suffix_of_check supported⟩
  rw [Outcome.ending_after, withSchema]
  cases hasSchema : (files.loadSchema request.schema).result with
  | error e => exact .inl (.schema reached hasSchema)
  | ok schema =>
    dsimp only
    rw [Outcome.ending_after, withDocuments]
    cases loaded : (files.loadDocuments request.documents).result with
    | error e => exact .inl (.documents loaded)
    | ok documents =>
      dsimp only
      rw [Outcome.ending_after, generateModule]
      cases generated : generate (request.options fetcher) (documents.map (·.document)) with
      | error e => exact .inl (.generation fetched generated)
      | ok m => exact .inr (exists_answer fetched supported hasSchema loaded generated)

/-- The options of a request hold no integer that is too long: they were read under the limit. -/
lemma Request.options_fit {fetcher : Json} (fetched : request.fetcherOption = .ok fetcher) :
    (request.options fetcher).Fits (some longestInteger) := by
  obtain ⟨params, given, made⟩ := Request.fetcherOption_eq_ok fetched
  have fits : fetcher.Fits (some longestInteger) := by
    have fit := fetchParams_fit given
    rw [CommandLine.fetcherOption] at made
    split at made
    · split_ifs at made
      cases made
      exact ⟨trivial, fit, trivial⟩
    · split_ifs at made
      · cases made
        exact ⟨trivial, trivial, trivial⟩
      · cases made
        trivial
  refine ⟨fits, trivial, trivial, ?_, trivial⟩
  cases request.importOperationTypesFrom? <;> trivial

/-- A run that generates nothing says why: nothing in its options cannot be written. -/
lemma ofGenerationError_of_fetched {fetcher : Json} {documents : List Document}
    {e : GenerationError} (fetched : request.fetcherOption = .ok fetcher)
    (ungenerated : generate (request.options fetcher) documents = .error e) :
    ∃ message, Ending.ofGenerationError e = .failed message := by
  cases e with
  | refused rs => exact ⟨_, rfl⟩
  | noStrategy e => exact ⟨_, rfl⟩
  | unwritten e =>
    exact absurd ungenerated (generate_ne_unwritten (Request.options_fit fetched) documents e)

/-- What a run stops at is reported, with two exceptions. -/
lemma Request.Stops.ending_cases (texts : files.HoldsTexts) {ending : Ending}
    (h : request.Stops files ending) :
    (∃ message, ending = .failed message) ∨
      (∃ misuse, ending = .ofItemFault (.misused misuse)) ∨
      (∃ digits, request.fetcherOption = .error (.longInteger digits) ∧
        ending = .broken (.reading (.longInteger digits))) ∨
      ∃ faults, request.MeetsFaults files faults ∧
        ending = .broken (.loading (.badSchema faults)) := by
  cases h with
  | @options e unread =>
    cases e with
    | misused misuse => exact .inr (.inl ⟨misuse, rfl⟩)
    | longInteger digits => exact .inr (.inr (.inl ⟨digits, unread, rfl⟩))
  | @output u _ => exact .inl ⟨u.message, rfl⟩
  | schema reached unloaded =>
    rcases ofLoadError_loadSchema texts unloaded with failed | ⟨faults, rfl⟩
    · exact .inl failed
    · obtain ⟨documents, loaded, found, faulty⟩ :=
        FileSystem.loadSchema_eq_badSchema_iff.mp unloaded
      exact .inr (.inr (.inr ⟨faults, ⟨reached, ⟨documents, loaded, found⟩, faulty⟩, rfl⟩))
  | documents unloaded => exact .inl (ofLoadError_loadSources texts unloaded)
  | generation fetched ungenerated => exact .inl (ofGenerationError_of_fetched fetched ungenerated)

/-- A run that cannot read a request option stops there. -/
lemma ending_of_unread {e : ItemFault} (unread : request.fetcherOption = .error e) :
    (runGenerate files request).ending = .ofItemFault e := by
  rw [runGenerate, unread]

/-- A run that meets faults in the definitions of its schema stops there. -/
lemma Request.MeetsFaults.ending_eq {faults : List SchemaFault}
    (h : request.MeetsFaults files faults) :
    (runGenerate files request).ending = .broken (.loading (.badSchema faults)) := by
  obtain ⟨fetcher, fetched⟩ := h.fetched
  have supported : OutputFile.check (Path.ofNames (files.resolve request.output)) = .ok () := by
    rw [OutputFile.check, if_pos]
    simpa [OutputFile.isSupported, OutputFile.suffixes] using h.supported
  rw [runGenerate, fetched]
  dsimp only
  rw [supported]
  dsimp only
  rw [Outcome.ending_after, withSchema, h.loadSchema_eq]
  rfl

/-- Where everything up to the writing goes well, a run ends well or breaks off. -/
lemma Request.Answer.ending_cases (h : request.Answer files params documents m) :
    (runGenerate files request).ending = .finished ∨
      (∃ fault, (runGenerate files request).ending = .broken (.writing fault)) ∨
      (runGenerate files request).ending = .broken .torn := by
  rw [h.sameEnd.1, writeModule]
  cases files.put (files.resolve request.output) (bytesOf m) with
  | error fault =>
    cases fault <;> exact .inr (.inl ⟨_, rfl⟩)
  | ok written =>
    dsimp only
    split
    · exact .inl rfl
    · exact .inr (.inr rfl)

/-- All that a run may break off at. -/
lemma broken_cases (texts : files.HoldsTexts) {b : Breakdown}
    (h : (runGenerate files request).ending = .broken b) :
    (∃ digits, b = .reading (.longInteger digits) ∧
        request.fetcherOption = .error (.longInteger digits)) ∨
      (∃ faults, b = .loading (.badSchema faults) ∧ request.MeetsFaults files faults) ∨
      (∃ fault, b = .writing fault) ∨ b = .torn := by
  rcases stops_or_answer files request with stops | ⟨params, documents, m, answer⟩
  · rw [h] at stops
    rcases stops.ending_cases texts with ⟨message, failed⟩ | ⟨misuse, misused⟩ |
      ⟨digits, unread, broken⟩ | ⟨faults, meets, broken⟩
    · cases failed
    · cases misused
    · cases broken
      exact .inl ⟨digits, rfl, unread⟩
    · cases broken
      exact .inr (.inl ⟨faults, rfl, meets⟩)
  · rcases answer.ending_cases with finished | ⟨fault, broken⟩ | broken
    · cases h.symm.trans finished
    · cases h.symm.trans broken
      exact .inr (.inr (.inl ⟨fault, rfl⟩))
    · cases h.symm.trans broken
      exact .inr (.inr (.inr rfl))

/-! ### Reports -/

/-- A run has said what is wrong, in its last line. -/
inductive Outcome.Reports (o : Outcome) : Prop
  | failed (message : String) (code : o.ending.exitCode = 1)
    (lines : o.errorOutput = o.log ++ ["Error: " ++ message])
  | misused (misuse : Misuse) (code : o.ending.exitCode = 2)
    (lines : o.errorOutput = o.log ++ (Command.generate.reminder ++
      ["Error: " ++ ("Invalid value for " ++ misuse.option ++ ": " ++ misuse.message)]))

lemma Outcome.reports_of_failed {o : Outcome} {message : String}
    (h : o.ending = .failed message) : o.Reports := by
  refine .failed message ?_ ?_
  · rw [h]
    rfl
  · rw [errorOutput, h]
    rfl

lemma Outcome.reports_of_misused {o : Outcome} {misuse : Misuse}
    (h : o.ending = .ofItemFault (.misused misuse)) : o.Reports := by
  refine .misused misuse ?_ ?_
  · rw [h]
    rfl
  · rw [errorOutput, h]
    rfl

/-- A run that breaks off says nothing. -/
lemma Outcome.not_reports_of_broken {o : Outcome} {b : Breakdown} (h : o.ending = .broken b) :
    ¬o.Reports := by
  rintro (⟨message, code, lines⟩ | ⟨misuse, code, lines⟩)
  · rw [errorOutput, h] at lines
    simp [Ending.report] at lines
  · rw [h] at code
    cases code

/-- A run that ends well has nothing to report. -/
lemma Outcome.not_reports_of_finished {o : Outcome} (h : o.ending = .finished) : ¬o.Reports := by
  rintro (⟨message, code, lines⟩ | ⟨misuse, code, lines⟩)
  · rw [h] at code
    cases code
  · rw [h] at code
    cases code

/-- A run that comes to no module reports what it stops at, with two exceptions. -/
lemma reports_iff (texts : files.HoldsTexts) : (runGenerate files request).Reports ↔
    (¬∃ params documents m, request.Answer files params documents m) ∧
      (∀ digits, request.fetcherOption ≠ .error (.longInteger digits)) ∧
      ∀ faults, ¬request.MeetsFaults files faults := by
  set o := runGenerate files request
  constructor
  · intro reports
    refine ⟨?_, ?_, ?_⟩
    · rintro ⟨params, documents, m, answer⟩
      rcases answer.ending_cases with finished | ⟨fault, broken⟩ | broken
      · exact o.not_reports_of_finished finished reports
      · exact o.not_reports_of_broken broken reports
      · exact o.not_reports_of_broken broken reports
    · intro digits unread
      exact o.not_reports_of_broken (ending_of_unread unread) reports
    · intro faults meets
      exact o.not_reports_of_broken meets.ending_eq reports
  · rintro ⟨none, short, sound⟩
    have stops := (stops_or_answer files request).resolve_right none
    rcases stops.ending_cases texts with ⟨message, failed⟩ | ⟨misuse, misused⟩ |
      ⟨digits, unread, -⟩ | ⟨faults, meets, -⟩
    · exact o.reports_of_failed failed
    · exact o.reports_of_misused misused
    · exact absurd unread (short digits)
    · exact absurd meets (sound faults)

lemma broken_reading_iff (texts : files.HoldsTexts) {e : ItemFault} :
    (runGenerate files request).ending = .broken (.reading e) ↔
      ∃ digits, e = .longInteger digits ∧ request.fetcherOption = .error e := by
  constructor
  · intro broken
    rcases broken_cases texts broken with ⟨digits, same, unread⟩ | ⟨_, same, -⟩ | ⟨_, same⟩ | same
    · cases same
      exact ⟨digits, rfl, unread⟩
    · cases same
    · cases same
    · cases same
  · rintro ⟨digits, rfl, unread⟩
    exact ending_of_unread unread

lemma broken_loading_iff (texts : files.HoldsTexts) {e : LoadError} :
    (runGenerate files request).ending = .broken (.loading e) ↔
      ∃ faults, e = .badSchema faults ∧ request.MeetsFaults files faults := by
  constructor
  · intro broken
    rcases broken_cases texts broken with ⟨_, same, -⟩ | ⟨faults, same, meets⟩ | ⟨_, same⟩ | same
    · cases same
    · cases same
      exact ⟨faults, rfl, meets⟩
    · cases same
    · cases same
  · rintro ⟨faults, rfl, meets⟩
    exact meets.ending_eq

/-- Where all files hold texts, a run that is asked for a module and comes to none says so and why,
in its last line, with two exceptions: it breaks off at an integer with too many digits in a request
option, and at the faults in the definitions of a schema whose files can all be read. These faults
are all that validation, loading and generation leave unreported. -/
theorem faults_reported {arguments : List String} (texts : files.HoldsTexts)
    (requested : asked files arguments = .ok (.generate request)) :
    let o := run files arguments
    (o.Reports ↔ (¬∃ params documents m, request.Answer files params documents m) ∧
      (∀ digits, request.fetcherOption ≠ .error (.longInteger digits)) ∧
      ∀ faults, ¬request.MeetsFaults files faults) ∧
    (∀ e, o.ending = .broken (.reading e) ↔
      ∃ digits, e = .longInteger digits ∧ request.fetcherOption = .error e) ∧
    ∀ e, o.ending = .broken (.loading e) ↔
      ∃ faults, e = .badSchema faults ∧ request.MeetsFaults files faults := by
  rw [run_of_asked requested]
  exact ⟨reports_iff texts, fun e => broken_reading_iff texts, fun e => broken_loading_iff texts⟩

lemma isFileName_schema : isFileName "s.graphql".toList := by decide

lemma isFileName_operations : isFileName "o.gql".toList := by decide

/-- A folder with a schema and a file of operations. -/
def withSources (schema operations : String) : FileSystem where
  root := .folder
    [(⟨"s.graphql".toList, isFileName_schema⟩, .file schema.toUTF8),
      (⟨"o.gql".toList, isFileName_operations⟩, .file operations.toUTF8)]
  here := []

lemma holdsTexts_withSources (schema operations : String) :
    (withSources schema operations).HoldsTexts := by
  rw [FileSystem.holdsTexts_iff]
  intro f hf
  have held : f.2 = schema.toUTF8 ∨ f.2 = operations.toUTF8 := by
    simp only [withSources, FileNode.files, FileNode.filesOfEntries, List.map_cons, List.map_nil,
      List.mem_append, List.mem_filter, List.mem_singleton, List.filter_nil, List.append_nil] at hf
    rcases hf with rfl | ⟨rfl, -⟩
    · exact .inl rfl
    · exact .inr rfl
  rcases held with held | held
  · rw [held]
    exact schema.isValidUTF8
  · rw [held]
    exact operations.isValidUTF8

set_option maxRecDepth 20000 in
/-- Operations that are no document are reported. -/
theorem faults_reported_operations :
    let files := withSources "type Query \x7b a: Int \x7d" "query Q \x7b a"
    let o := run files (sampleArguments [])
    files.HoldsTexts ∧ asked files (sampleArguments []) = .ok (.generate sampleRequest) ∧
      o.Reports ∧ o.ending.exitCode = 1 := by
  intro files o
  have texts : files.HoldsTexts := holdsTexts_withSources _ _
  have requested : asked files (sampleArguments []) = .ok (.generate sampleRequest) := by
    decide +kernel
  have unloaded : (files.loadDocuments sampleRequest.documents).result.toOption.isSome = false := by
    decide +kernel
  have hasSchema : (files.loadSchema sampleRequest.schema).result.toOption.isSome = true := by
    decide +kernel
  have code : o.ending.exitCode = 1 := by decide +kernel
  refine ⟨texts, requested, (faults_reported texts requested).1.mpr ⟨?_, ?_, ?_⟩, code⟩
  · rintro ⟨params, documents, m, answer⟩
    rw [answer.loaded] at unloaded
    cases unloaded
  · intro digits unread
    cases unread
  · intro faults meets
    rw [meets.loadSchema_eq] at hasSchema
    cases hasSchema

set_option maxRecDepth 20000 in
/-- A type that is not there is found in the schema, and nothing is said about it. -/
theorem schema_faults_unreported :
    let files := withSources "type Query \x7b a: Foo \x7d" "query Q \x7b a \x7d"
    let o := run files (sampleArguments [])
    files.HoldsTexts ∧ asked files (sampleArguments []) = .ok (.generate sampleRequest) ∧
      sampleRequest.MeetsFaults files [.unknownType "Foo" []] ∧
      o.ending.exitCode = 1 ∧ o.errorOutput = [] := by
  intro files o
  have requested : asked files (sampleArguments []) = .ok (.generate sampleRequest) := by
    decide +kernel
  have evaluated : (files.loadSources .schema sampleRequest.schema).result.toOption.map
      (fun documents => schemaFaults (documents.flatMap (·.document))) =
        some [.unknownType "Foo" []] := by decide +kernel
  have meets : sampleRequest.MeetsFaults files [.unknownType "Foo" []] := by
    obtain ⟨documents, loaded, found⟩ := Option.map_eq_some_iff.mp evaluated
    refine ⟨⟨⟨_, rfl⟩, by decide⟩, ⟨documents, ?_, found⟩, List.cons_ne_nil _ _⟩
    cases result : (files.loadSources .schema sampleRequest.schema).result with
    | error e =>
      rw [result] at loaded
      cases loaded
    | ok documents' =>
      rw [result] at loaded
      cases loaded
      rfl
  have code : o.ending.exitCode = 1 := by decide +kernel
  have silent : o.errorOutput = [] := by decide +kernel
  exact ⟨holdsTexts_withSources _ _, requested, meets, code, silent⟩

end CommandLine

end OperationHooks
