import OperationHooks.Files.Collection
import OperationHooks.GraphQL.Location
import OperationHooks.GraphQL.Reader
import OperationHooks.Schema.Basic
import OperationHooks.Text.Utf8

/-!
# Loading

Schemas and documents from files. The files that a path stands for are read in order, up to the
first that cannot be read; which ones were taken up is part of the answer.
-/

namespace OperationHooks

/-- What files are loaded for. -/
inductive SourceKind where
  | schema
  | documents
deriving DecidableEq, Repr

/-- The endings of files of a kind. -/
def SourceKind.endings : SourceKind → List String
  | .schema => [".graphql", ".graphqls"]
  | .documents => [".graphql", ".gql"]

/-- The words for a kind. -/
def SourceKind.words : SourceKind → String
  | .schema => "schema files"
  | .documents => "GraphQL documents"

/-- A place in one of several sources. -/
structure SourcePlace where
  source : String
  place : Location

/-- The place with its excerpt, as it is reported. -/
def SourcePlace.report (p : SourcePlace) : String := placeReport p.source p.place

/-- A text that is missing in a schema, and where. -/
structure MissingText where
  error : AssemblyError
  place? : Option SourcePlace

/-- The wording of the fault alone. -/
def MissingText.fault (m : MissingText) : String :=
  m.error.error.fault.message m.error.error.remark

/-- The fault as it is reported, with its excerpt. -/
def MissingText.report (m : MissingText) : String :=
  (match m.error.fieldsOf? with
    | none => ""
    | some type => type ++ " fields cannot be resolved. ")
    ++ m.fault ++ ((m.place?.map (·.report)).getD "")

/-- The wording of the fault. If it spoils the fields of a type, the place belongs to it. -/
def MissingText.message (m : MissingText) : String :=
  if m.error.fieldsOf?.isNone then m.fault else m.report

/-- The place that comes with the wording. -/
def MissingText.location? (m : MissingText) : Option Location :=
  if m.error.fieldsOf?.isNone then m.place?.map (·.place) else none

/-- Why files cannot be loaded. A fault of a source comes with the source. -/
inductive LoadError where
  | nothingFound (kind : SourceKind) (path : String)
  | notText (fault : Utf8Fault)
  | unreadable (source : String) (e : SourceError)
  | badSchema (faults : List SchemaFault)
  | missingText (m : MissingText)

/-- The wording of the error. -/
def LoadError.message : LoadError → String
  | .nothingFound kind path => "No " ++ kind.words ++ " found in " ++ path
  | .notText fault => fault.message
  | .unreadable _ e => e.message
  | .badSchema faults => schemaFaultsMessage faults
  | .missingText m => m.message

/-- A document, its source and the file it comes from. -/
structure LoadedDocument where
  path : String
  source : String
  document : Document

/-- The outcome of loading, and the files that were taken up for it, the last one perhaps in
vain. -/
structure Loading (α : Type) where
  opened : List String
  result : Except LoadError α

/-- The text of a file, whose lines may end in any way. -/
def FoundFile.text (f : FoundFile) : Except LoadError String :=
  match readUtf8 f.content with
  | .ok text => .ok (String.ofList (unifyLineEnds text.toList))
  | .error e => .error (.notText e)

/-- The document in a file. -/
def FoundFile.load (f : FoundFile) : Except LoadError LoadedDocument :=
  match f.text with
  | .error e => .error e
  | .ok source =>
    match Document.read source with
    | .ok d => .ok ⟨f.path, source, d⟩
    | .error e => .error (.unreadable source e)

/-- The documents in files, up to the first that cannot be read. -/
def readDocuments : List FoundFile → Loading (List LoadedDocument)
  | [] => ⟨[], .ok []⟩
  | f :: fs =>
    match f.load with
    | .error e => ⟨[f.path], .error e⟩
    | .ok d =>
      let rest := readDocuments fs
      ⟨f.path :: rest.opened, rest.result.map (d :: ·)⟩

/-- The documents in the files that a path stands for; there has to be one. -/
def FileSystem.loadSources (fs : FileSystem) (kind : SourceKind) (path : String) :
    Loading (List LoadedDocument) :=
  match fs.collect path kind.endings with
  | [] => ⟨[], .error (.nothingFound kind path)⟩
  | files => readDocuments files

/-- The documents with operations at a path. -/
def FileSystem.loadDocuments (fs : FileSystem) (path : String) :
    Loading (List LoadedDocument) :=
  fs.loadSources .documents path

/-- The place of a remark in a definition of a document. -/
def LoadedDocument.place? (d : LoadedDocument) (definition : Nat) (p : RemarkPlace) :
    Option SourcePlace :=
  let before := total ((d.document.take definition).map (·.atSigns))
  ((Stream.ofChars d.source.toList).fromAtSign? (before + p.atSigns)).map (fun s =>
    ⟨d.source, .of d.source.toList (s.dropTokens p.tokens).left⟩)

/-- The place of a remark in a definition of documents that are taken for one. -/
def placeAmong? (definition : Nat) (p : RemarkPlace) :
    List LoadedDocument → Option SourcePlace
  | [] => none
  | d :: ds =>
    if definition < d.document.length then d.place? definition p
    else placeAmong? (definition - d.document.length) p ds

/-- Why documents give no schema. -/
def LoadError.ofRefused (documents : List LoadedDocument) : Schema.Refused → LoadError
  | .faulty faults => .badSchema faults
  | .unassembled e =>
    .missingText ⟨e, e.error.place?.bind (fun p => placeAmong? e.definition p documents)⟩

/-- The schema at a path: the definitions of all files together. -/
def FileSystem.loadSchema (fs : FileSystem) (path : String) : Loading Schema :=
  let sources := fs.loadSources .schema path
  ⟨sources.opened,
    match sources.result with
    | .error e => .error e
    | .ok documents =>
      (Schema.ofDocument (documents.flatMap (·.document))).mapError (.ofRefused documents)⟩

end OperationHooks
