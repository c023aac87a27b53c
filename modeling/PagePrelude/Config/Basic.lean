import PagePrelude.Config.Options
import PagePrelude.Identifier
import PagePrelude.Path

/-!
# Validated configuration

Options are turned into entries once; after that no part of the library has to ask
what shape an entry was written in. The first mistake in the order of the text is
reported, imports before components.
-/

namespace PagePrelude

/-- A named import: the name a module exports and the name it is bound to. -/
structure Binding where
  exported : String
  bound : String
  deriving DecidableEq, Repr

/-- One import declared by a configuration. -/
inductive ImportEntry where
  /-- The default export, under a name derived from the path. -/
  | default (path : String)
  /-- Named exports, in order. -/
  | named (path : String) (bindings : List Binding)
  /-- All exports, under one name. -/
  | whole (path name : String)
  deriving DecidableEq, Repr

/-- The module path of an entry. -/
def ImportEntry.path : ImportEntry → String
  | default path | named path _ | whole path _ => path

/-- The export of a module that replaces an element. -/
inductive ComponentRef where
  | default (path : String)
  | named (name path : String)
  deriving DecidableEq, Repr

/-- The module path of a component. -/
def ComponentRef.path : ComponentRef → String
  | default path | named _ path => path

/-- The component that replaces one element of the markup. -/
structure Override where
  element : String
  component : ComponentRef
  deriving DecidableEq, Repr

/-- A validated configuration. -/
structure Config where
  imports : List ImportEntry := []
  overrides : List Override := []
  /-- The directory that relative module paths start from. -/
  root : String := ""
  deriving DecidableEq, Repr

namespace Identifier

/-- The name derived from a module path: its last segment without the extension, sanitized. -/
def derived (path : String) : String :=
  sanitize ((Path.stem path).getD "")

/-- The derived name of a module path, if it is an identifier. -/
def derive (path : String) : Except Error String :=
  let name := derived path
  if isIdentifier name then .ok name else .error (.invalidIdentifier path name)

/-- Refuses a local name that is no identifier. -/
def check (name path : String) : Except Error Unit :=
  if isIdentifier name then .ok () else .error (.invalidIdentifier path name)

end Identifier

namespace Config

/-- Refuses an empty exported name or a bad local one. -/
def checkBinding (path : String) (binding : Binding) : Except Error Binding := do
  if binding.exported = "" then throw (.invalidEntry path .emptyName)
  Identifier.check binding.bound path
  return binding

/-- The binding that an item of a list declares. -/
def bindingOf (path : String) : Json.Value → Except Error Binding
  | .string name => checkBinding path ⟨name, name⟩
  | .array [.string exported, .string bound] => checkBinding path ⟨exported, bound⟩
  | .array [first, second] => .error (.invalidEntry path (.pairNotStrings [first, second]))
  | .array items => .error (.invalidEntry path (.pairLength items.length))
  | other => .error (.invalidEntry path (.notBinding other))

/-- The entry that a path and its value declare. -/
def entryOf (path : String) : Json.Value → Except Error ImportEntry
  | .string name => do
    Identifier.check name path
    return .whole path name
  | .array [] => .error (.emptyNamedImports path)
  | .array items => do return .named path (← items.mapM (bindingOf path))
  | other => .error (.invalidEntry path (.notSpecifiers other))

/-- The entries that an element of the imports declares. -/
def entriesOf : Json.Value → Except Error (List ImportEntry)
  | .string path => do
    let _ ← Identifier.derive path
    return [.default path]
  | .object fields => fields.mapM fun (path, value) => entryOf path value
  | other => .error (.invalidEntry other.text .notEntry)

/-- The component that a value refers to. -/
def componentOf (element : String) : Json.Value → Except Error ComponentRef
  | .string path => .ok (.default path)
  | .object fields =>
    match Json.field? fields "name", Json.field? fields "from" with
    | some (.string name), some (.string path) =>
      if name = "" then .error (.invalidOverride element .notReference)
      else .ok (.named name path)
    | _, _ => .error (.invalidOverride element .notReference)
  | other => .error (.invalidOverride element (.notComponent other))

/-- The override that a key and its value declare. -/
def overrideOf (element : String) (value : Json.Value) : Except Error Override := do
  if element = "" then throw (.invalidOverride element .emptyElement)
  return ⟨element, ← componentOf element value⟩

/-- Validates options. -/
def ofOptions (options : Options) (root : String) : Except Error Config := do
  let imports ← options.imports.mapM entriesOf
  let overrides ← options.components.mapM fun (element, value) => overrideOf element value
  return { imports := imports.flatten, overrides := overrides, root := root }

/-- Reads and validates JSON text. -/
def ofJson (text root : String) : Except Error Config := do
  let options ← (Options.ofJson text).mapError fun fault => .json fault.text
  ofOptions options root

/-- Reads and validates YAML text. -/
def ofYaml (text root : String) : Except Error Config := do
  ofOptions (← Options.ofYaml text) root

/-- Reads and validates the contents of a configuration file. Its directory is the root, and its
extension says how it is written. `contents` is what reading the file gave. -/
def ofFile (path : String) (contents : Except FileFault String) : Except Error Config := do
  let text ← contents.mapError .file
  let root := Path.parent path
  match Path.extension path with
  | some "json" => ofJson text root
  | some "yaml" | some "yml" => ofYaml text root
  | other => .error (.unsupportedFormat other)

/-- Whether nothing would ever be injected. -/
def isEmpty (config : Config) : Bool :=
  config.imports.isEmpty && config.overrides.isEmpty

end Config

end PagePrelude
