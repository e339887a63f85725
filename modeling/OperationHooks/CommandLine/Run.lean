import OperationHooks.CommandLine.Request
import OperationHooks.GeneratedModule
import OperationHooks.Loading
import OperationHooks.OutputFile

/-!
# Runs of the program

A run takes files and arguments to an outcome: the lines that are printed, how the run ends, and
the files afterwards. The files only change when a module is written at the very end. Its file is
opened first, and is left empty if the module turns out to be no text.
-/

namespace OperationHooks

namespace CommandLine

/-! ### Outcomes -/

/-- Why a run breaks off without a message of its own. -/
inductive Breakdown where
  | reading (e : ItemFault)
  | loading (e : LoadError)
  | printing (e : Json.WriteFault)
  | writing (fault : FileNode.WriteFault)
  | torn

/-- What there is to say about a breakdown. -/
def Breakdown.message : Breakdown → String
  | .reading e => e.message
  | .loading e => e.message
  | .printing e => e.message
  | .writing .isFolder => "the output is a folder"
  | .writing .parentIsFile => "the folder of the output is a file"
  | .writing .ancestorIsFile => "a folder above the output is a file"
  | .torn => "the module holds half of a surrogate pair"

/-- How a run ends. -/
inductive Ending where
  | finished
  | failed (message : String)
  | misused (e : UsageError)
  | broken (b : Breakdown)

/-- The number that a run hands back to whoever started it. -/
def Ending.exitCode : Ending → Nat
  | .finished => 0
  | .failed _ => 1
  | .misused _ => 2
  | .broken _ => 1

/-- The lines with which an ending is reported. -/
def Ending.report : Ending → List String
  | .finished => []
  | .failed message => ["Error: " ++ message]
  | .misused e => e.fault.report e.command
  | .broken _ => []

/-- What comes of a run: the lines of its output, the lines that go to the side, the ending, and
the files. -/
structure Outcome where
  output : List String
  log : List String
  ending : Ending
  files : FileSystem

/-- The lines that go to the side, the report of the ending among them. -/
def Outcome.errorOutput (o : Outcome) : List String := o.log ++ o.ending.report

/-! ### Messages -/

/-- A line of the log about a file. -/
def openedLine : SourceKind → String → String
  | .schema, path => "DEBUG gql_hookgen.core.loader: Parsing schema file " ++ path
  | .documents, path => "DEBUG gql_hookgen.core.loader: Parsing document " ++ path

/-- The lines of the log about files, which only show if they are asked for. -/
def openedLines (request : Request) (kind : SourceKind) (paths : List String) : List String :=
  if request.verbose then paths.map (openedLine kind) else []

/-- The line of the log about a diagnostic. -/
def Diagnostic.line (d : Diagnostic) : String :=
  "WARNING gql_hookgen.core.visitor: " ++ d.concern.message

/-- How a run ends that cannot load its sources. Bytes that are no text and a schema with faults are
not expected. -/
def Ending.ofLoadError (e : LoadError) : Ending :=
  match e with
  | .nothingFound _ _ => .failed e.message
  | .unreadable source fault => .failed (fault.report source)
  | .missingText m => .failed m.report
  | .notText _ => .broken (.loading e)
  | .badSchema _ => .broken (.loading e)

/-- A refused option in one line. -/
def refusalLine (r : Refusal) : String :=
  let step : OptionStep → String
    | .key name => name
    | .index i => toString i
  ".".intercalate (r.path.map step) ++ ": " ++ r.fault.message

/-- The wording of refused options. -/
def refusalMessage (rs : List Refusal) : String :=
  "\n".intercalate ("Invalid plugin configuration:" :: rs.map refusalLine)

/-- How a run ends that generates nothing. A request option that cannot be written is not
expected. -/
def Ending.ofGenerationError : GenerationError → Ending
  | .refused rs => .failed (refusalMessage rs)
  | .noStrategy e => .failed e.message
  | .unwritten e => .broken (.printing e)

/-- How often a text holds another one, apart from the `skipped` characters in front. Occurrences do
not overlap: the first counts, then the first behind it. -/
def occurrences (pattern : List Char) (skipped : Nat) : List Char → Nat
  | [] => 0
  | c :: cs =>
    match skipped with
    | n + 1 => occurrences pattern n cs
    | 0 =>
      if pattern.isPrefixOf (c :: cs) then occurrences pattern (pattern.length - 1) cs + 1
      else occurrences pattern 0 cs

/-- The number of hooks that a content declares, by the look of it. -/
def hookCount (content : String) : Nat := occurrences "export const use".toList 0 content.toList

/-- The lines that sum up a module, which only show if they are asked for. -/
def summaryLines (request : Request) (m : GeneratedModule) : List String :=
  if request.verbose then
    ("  Bindings: " ++ toString (hookCount m.content))
      :: m.diagnostics.map (fun d => "  Skipped " ++ d.operation)
  else []

/-! ### Stages -/

/-- The options of generation that a request stands for. -/
def Request.options (request : Request) (fetcher : Json) : Json :=
  .obj [("fetcher", fetcher),
    ("exposeQueryKeys", .bool request.exposeQueryKeys),
    ("omitOperationSuffix", .bool request.omitOperationSuffix),
    ("importOperationTypesFrom", (request.importOperationTypesFrom?.map .str).getD .null)]

/-- The fetcher option that a request stands for. -/
def Request.fetcherOption (request : Request) : Except ItemFault Json :=
  match CommandLine.fetchParams request.fetchParams with
  | .error e => .error e
  | .ok params =>
    (CommandLine.fetcherOption request.fetcher request.endpoint? params
      request.lazyVariables).mapError .misused

/-- How a run ends whose request options cannot be read. -/
def Ending.ofItemFault : ItemFault → Ending
  | .misused misuse => .misused ⟨.generate, .misused misuse⟩
  | .longInteger digits => .broken (.reading (.longInteger digits))

/-- Adds lines in front of those of an outcome. -/
def Outcome.after (o : Outcome) (output log : List String) : Outcome :=
  { o with output := output ++ o.output, log := log ++ o.log }

/-- What a module leaves in a file that is opened for it. -/
def bytesOf (m : GeneratedModule) : ByteArray := if m.isWhole then m.render.toUTF8 else .empty

/-- Writes a module. The folder of the file is made first; only then the writing is announced. -/
def writeModule (files : FileSystem) (place : List FileName) (m : GeneratedModule) : Outcome :=
  let path := Path.ofNames place
  let announcement := "Writing to " ++ path ++ "..."
  match files.put place (bytesOf m) with
  | .ok written =>
    if m.isWhole then
      ⟨[announcement, "Done! Generated hooks in " ++ path], [], .finished, written⟩
    else ⟨[announcement], [], .broken .torn, written⟩
  | .error .isFolder => ⟨[announcement], [], .broken (.writing .isFolder), files⟩
  | .error fault => ⟨[], [], .broken (.writing fault), files⟩

/-- Generates a module for loaded documents and writes it. -/
def generateModule (files : FileSystem) (request : Request) (options : Json)
    (place : List FileName) (documents : List LoadedDocument) : Outcome :=
  match generate options (documents.map (·.document)) with
  | .error e => ⟨[], [], .ofGenerationError e, files⟩
  | .ok m =>
    (writeModule files place m).after (summaryLines request m) (m.diagnostics.map Diagnostic.line)

/-- Loads documents and goes on with them. -/
def withDocuments (files : FileSystem) (request : Request)
    (next : List LoadedDocument → Outcome) : Outcome :=
  let loading := files.loadDocuments request.documents
  let log := openedLines request .documents loading.opened
  match loading.result with
  | .error e => ⟨[], log, .ofLoadError e, files⟩
  | .ok documents =>
    let count := "  Documents: " ++ toString documents.length
    (next documents).after
      ((if request.verbose then [count] else []) ++ ["Generating hooks..."]) log

/-- Loads the schema and goes on with it. -/
def withSchema (files : FileSystem) (request : Request) (next : Schema → Outcome) : Outcome :=
  let loading := files.loadSchema request.schema
  let log := openedLines request .schema loading.opened
  match loading.result with
  | .error e => ⟨[], log, .ofLoadError e, files⟩
  | .ok schema => (next schema).after ["Parsing documents..."] log

/-- Answers a request for a module. The schema has to be there and without faults; nothing else
depends on it. -/
def runGenerate (files : FileSystem) (request : Request) : Outcome :=
  match request.fetcherOption with
  | .error e => ⟨[], [], .ofItemFault e, files⟩
  | .ok fetcher =>
    let place := files.resolve request.output
    match OutputFile.check (Path.ofNames place) with
    | .error unsupported => ⟨[], [], .failed unsupported.message, files⟩
    | .ok _ =>
      let generated :=
        withSchema files request fun _ =>
          withDocuments files request
            (generateModule files request (request.options fetcher) place)
      generated.after ["Parsing schema..."] []

/-- The lines of help for a command. -/
def helpLines : Command → List String
  | .program => [Command.program.usageLine, "", "Commands:", "  " ++ generateName]
  | .generate =>
    [Command.generate.usageLine, "", "Options:"]
      ++ GenerateOption.all.map (fun o => "  " ++ o.form.written)

/-- The version of the program. -/
def versionLine : String := "main, version 0.1.0"

/-- Runs the program. -/
def run (files : FileSystem) (arguments : List String) : Outcome :=
  match Invocation.read (fun path => (files.find? path).isSome) arguments with
  | .error e => ⟨[], [], .misused e, files⟩
  | .ok (.help c) => ⟨helpLines c, [], .finished, files⟩
  | .ok .version => ⟨[versionLine], [], .finished, files⟩
  | .ok (.generate request) => runGenerate files request

end CommandLine

end OperationHooks
