import OperationHooks.CommandLine.Options

/-!
# Requests

What the program is asked for: help, its version, or a generated module together with everything
that was said about it.
-/

namespace OperationHooks

namespace CommandLine

/-! ### Options -/

/-- The options of the program itself. -/
inductive ProgramOption where
  | version
  | help
deriving DecidableEq, Repr

/-- How the options of the program are written. -/
def programForms : List (OptionForm ProgramOption) :=
  [⟨.version, "--version", none, false⟩, ⟨.help, "--help", none, false⟩]

/-- The options of the command that generates a module. -/
inductive GenerateOption where
  | schema
  | documents
  | output
  | fetcher
  | endpoint
  | fetchParam
  | lazyVariables
  | exposeQueryKeys
  | omitOperationSuffix
  | importOperationTypesFrom
  | verbose
  | help
deriving DecidableEq, Repr

/-- How an option is written. -/
def GenerateOption.form : GenerateOption → OptionForm GenerateOption
  | .schema => ⟨.schema, "--schema", some 's', true⟩
  | .documents => ⟨.documents, "--documents", some 'd', true⟩
  | .output => ⟨.output, "--output", some 'o', true⟩
  | .fetcher => ⟨.fetcher, "--fetcher", some 'f', true⟩
  | .endpoint => ⟨.endpoint, "--endpoint", none, true⟩
  | .fetchParam => ⟨.fetchParam, "--fetch-param", none, true⟩
  | .lazyVariables => ⟨.lazyVariables, "--lazy-variables", none, false⟩
  | .exposeQueryKeys => ⟨.exposeQueryKeys, "--expose-query-keys", none, false⟩
  | .omitOperationSuffix => ⟨.omitOperationSuffix, "--omit-operation-suffix", none, false⟩
  | .importOperationTypesFrom =>
    ⟨.importOperationTypesFrom, "--import-operation-types-from", none, true⟩
  | .verbose => ⟨.verbose, "--verbose", some 'v', false⟩
  | .help => ⟨.help, "--help", none, false⟩

/-- The options of the command that generates a module, in the order in which they are asked for
if they are missing. -/
def GenerateOption.all : List GenerateOption :=
  [.schema, .documents, .output, .fetcher, .endpoint, .fetchParam, .lazyVariables,
    .exposeQueryKeys, .omitOperationSuffix, .importOperationTypesFrom, .verbose, .help]

/-- Whether an option may not be missing. -/
def GenerateOption.isRequired : GenerateOption → Bool
  | .schema => true
  | .documents => true
  | .output => true
  | _ => false

/-- Whether the value of an option has to be the path of something that exists. -/
def GenerateOption.isExistingPath : GenerateOption → Bool
  | .schema => true
  | .documents => true
  | _ => false

/-! ### Requests -/

/-- What is said about a module to generate. -/
structure Request where
  schema : String
  documents : String
  output : String
  fetcher : String
  endpoint? : Option String
  fetchParams : List String
  lazyVariables : Bool
  exposeQueryKeys : Bool
  omitOperationSuffix : Bool
  importOperationTypesFrom? : Option String
  verbose : Bool
deriving DecidableEq, Repr

/-- What the program is asked for. -/
inductive Invocation where
  | help (c : Command)
  | version
  | generate (request : Request)
deriving DecidableEq, Repr

/-- Wrong usage of a command. -/
structure UsageError where
  command : Command
  fault : UsageFault
deriving DecidableEq, Repr

/-- The values of an option, in the order in which they were given. -/
def valuesOf (given : List (Given GenerateOption)) (o : GenerateOption) : List String :=
  given.filterMap (fun (tag, value) => if tag = o then some value else none)

/-- The value of an option that was given; the last one counts. -/
def valueOf? (given : List (Given GenerateOption)) (o : GenerateOption) : Option String :=
  (valuesOf given o).getLast?

/-- Whether an option was given. -/
def isGiven (given : List (Given GenerateOption)) (o : GenerateOption) : Bool :=
  (valueOf? given o).isSome

/-- The first path that does not exist, options in the order in which they were first given. -/
def badPath? (pathExists : String → Bool) (given : List (Given GenerateOption)) :
    Option UsageFault :=
  (given.map (·.1)).eraseDups.findSome? (fun o =>
    if o.isExistingPath then
      (valueOf? given o).bind (fun path =>
        if pathExists path then none else some (.noSuchPath o.form.written path))
    else none)

/-- The first option that is required and missing. -/
def missing? (given : List (Given GenerateOption)) : Option UsageFault :=
  (GenerateOption.all.find? (fun o => o.isRequired && !isGiven given o)).map
    (fun o => .missing o.form.written)

/-- What the options say about a module to generate. -/
def Request.ofGiven (given : List (Given GenerateOption)) : Request where
  schema := (valueOf? given .schema).getD ""
  documents := (valueOf? given .documents).getD ""
  output := (valueOf? given .output).getD ""
  fetcher := (valueOf? given .fetcher).getD Decode.FetcherKind.browser.word
  endpoint? := valueOf? given .endpoint
  fetchParams := valuesOf given .fetchParam
  lazyVariables := isGiven given .lazyVariables
  exposeQueryKeys := isGiven given .exposeQueryKeys
  omitOperationSuffix := isGiven given .omitOperationSuffix
  importOperationTypesFrom? := valueOf? given .importOperationTypesFrom
  verbose := isGiven given .verbose

/-- Reads the arguments of the command that generates a module. Paths are looked at before missing
options are, and those before arguments that are too many. -/
def readGenerate (pathExists : String → Bool) (arguments : List String) :
    Except UsageFault Invocation :=
  match readOptions (GenerateOption.all.map (·.form)) true arguments with
  | .error fault => .error fault
  | .ok (given, extra) =>
    if isGiven given .help then .ok (.help .generate)
    else
      match (badPath? pathExists given).or (missing? given) with
      | some fault => .error fault
      | none =>
        if extra = [] then .ok (.generate (.ofGiven given)) else .error (.extraArguments extra)

/-- The name of the command that generates a module. -/
def generateName : String := "generate"

/-- Reads the arguments of the program. -/
def Invocation.read (pathExists : String → Bool) (arguments : List String) :
    Except UsageError Invocation :=
  match readOptions programForms false arguments with
  | .error fault => .error ⟨.program, fault⟩
  | .ok ((.version, _) :: _, _) => .ok .version
  | .ok ((.help, _) :: _, _) => .ok (.help .program)
  | .ok ([], []) => if arguments = [] then .ok (.help .program) else .error ⟨.program, .noCommand⟩
  | .ok ([], name :: rest) =>
    if name = generateName then (readGenerate pathExists rest).mapError (⟨.generate, ·⟩)
    else
      match readOptions programForms false (name :: rest) with
      | .error fault => .error ⟨.program, fault⟩
      | .ok _ => .error ⟨.program, .noSuchCommand name (closeNames name [generateName])⟩

/-- The paths that an answer may depend on: those given for the schema, the documents and the
output. -/
def pathsOf (arguments : List String) : List String :=
  match readOptions programForms false arguments with
  | .ok (_, _ :: rest) =>
    match readOptions (GenerateOption.all.map (·.form)) true rest with
    | .ok (given, _) => [GenerateOption.schema, .documents, .output].flatMap (valuesOf given)
    | .error _ => []
  | _ => []

end CommandLine

end OperationHooks
