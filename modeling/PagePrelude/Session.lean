import PagePrelude.Integration
import PagePrelude.Page.Compile

/-!
# Sessions

A session keeps the checked code of one configuration and transforms documents with it.
Setup decides whether documents with module code get any; until then they do.
-/

namespace PagePrelude

/-- Options that a session is opened with. -/
structure SessionOptions where
  imports : Option Json.Value := none
  components : Option Json.Value := none
  root : Option String := none
  deriving Repr

/-- Why a session cannot do what it is asked. -/
inductive SessionError where
  /-- The options are of the wrong kind. -/
  | options (fault : Json.Fault)
  /-- The working directory cannot be read, for a reason. -/
  | directory (reason : String)
  /-- The document at a path cannot be compiled. -/
  | unsupported (path : String)
  | failed (error : Error)
  deriving Repr

/-- The words for the error of a session. -/
def SessionError.message : SessionError → String
  | options fault => "Invalid auto-import options: " ++ fault.text
  | directory reason => "Failed to read working directory: " ++ reason
  | unsupported path => "Unsupported document type: " ++ path
  | failed error => error.message

/-- An open session. -/
structure Session where
  integration : Integration
  /-- Whether documents with module code are changed. -/
  enabled : Bool := true

/-- A document after a transformation. -/
structure Transformed where
  code : String
  injection : Injection := {}
  deriving DecidableEq, Repr

/-- A document of a batch. -/
structure BatchInput where
  id : String
  source : String
  /-- The path that decides the kind, if it is not the identifier. -/
  path : Option String := none
  deriving Repr

/-- The outcome for one document of a batch: the document, or why there is none. -/
structure BatchOutcome where
  id : String
  result : Except Error Transformed

/-- The outcomes of a batch in the order of its documents, with machine-word counts. -/
structure Batch where
  outcomes : List BatchOutcome
  total : UInt32
  succeeded : UInt32
  failed : UInt32

namespace Session

/-- The options as one value. -/
def optionsValue (options : SessionOptions) : Json.Value :=
  .object <|
    (options.imports.map fun value => (Options.importsKey, value)).toList ++
      (options.components.map fun value => (Options.componentsKey, value)).toList

/-- The directory that paths are resolved against: the one that is named, or else the working
directory, if that can be read. -/
def rootOf (options : SessionOptions) (directory : Except String String) :
    Except SessionError String :=
  match options.root with
  | some root => .ok root
  | none => directory.mapError .directory

/-- Opens a session where a working directory was read, or not for a reason. -/
def start (options : SessionOptions) (directory : Except String String := .ok "/") :
    Except SessionError Session := do
  let root ← rootOf options directory
  let written ← (Options.ofValue (optionsValue options)).mapError .options
  let config ← (Config.ofOptions written root).mapError .failed
  let integration ← (Integration.ofConfig config).mapError .failed
  return { integration }

/-- Sets the session up for a build with the given integrations. -/
def setup (session : Session) (integrations : List String) : Session × Setup :=
  let setup := session.integration.setup integrations
  ({ session with enabled := setup.support.injects }, setup)

/-- Transforms the document at a path. Documents that are not injected into come back as they
are, without being read. -/
def transform (session : Session) (source path : String) : Except Error Transformed :=
  match DocumentKind.ofPath path with
  | some kind =>
    if session.enabled || !kind.hasModuleCode then do
      let injected ← Document.inject session.integration.injector kind source
      return { code := injected.code, injection := injected.injection }
    else .ok { code := source }
  | none => .ok { code := source }

/-- What documents are compiled with: the injector of the session, unless setup turned it off. -/
def injectorInUse (session : Session) : Injector :=
  if session.enabled then session.integration.injector else .idle

/-- Compiles the document at a path. -/
def compile (session : Session) (options : Page.Options) (source path : String) :
    Except SessionError Compiled :=
  match DocumentKind.ofPath path with
  | some kind =>
    (Document.compile session.injectorInUse options kind source).mapError .failed
  | none => .error (.unsupported path)

/-- Transforms one document of a batch. -/
def outcome (session : Session) (input : BatchInput) : BatchOutcome :=
  { id := input.id, result := session.transform input.source (input.path.getD input.id) }

/-- Transforms many documents. -/
def transformAll (session : Session) (inputs : List BatchInput) : Batch :=
  let outcomes := inputs.map session.outcome
  let count (p : BatchOutcome → Bool) : UInt32 := .ofNat (outcomes.countP p)
  { outcomes
    total := .ofNat inputs.length
    succeeded := count (·.result.isOk)
    failed := count (!·.result.isOk) }

/-- The script for pages without module code, if anything is imported. -/
def pageScript (session : Session) : Option String :=
  session.integration.exposure.script

/-- The names that the imports bind, in order. -/
def exposedNames (session : Session) : List String :=
  session.integration.exposure.names

end Session

end PagePrelude
