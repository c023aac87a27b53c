import PagePrelude.Json.Printer
import PagePrelude.Json.Fault
import PagePrelude.Yaml.Fault
import PagePrelude.Location

/-!
# Errors

Every failure names its cause. `Error.message` is the only place that puts a cause
into words, and `Error.isConfigError` tells the mistakes of a configuration from
failures elsewhere.
-/

namespace PagePrelude

/-- What a generated piece of module code holds. -/
inductive FragmentKind where
  /-- Import declarations only. -/
  | imports
  /-- The declaration that exports the component overrides. -/
  | exports
  deriving DecidableEq, Repr

/-- The name of a kind of fragment. -/
def FragmentKind.text : FragmentKind → String
  | imports => "import block"
  | exports => "export block"

/-- What is wrong with an entry of the imports. -/
inductive EntryFault where
  /-- The entry is neither a path nor a mapping of paths. -/
  | notEntry
  /-- A path is mapped to neither a name nor a list. -/
  | notSpecifiers (found : Json.Value)
  /-- A pair holds something other than two strings. -/
  | pairNotStrings (pair : List Json.Value)
  /-- A list that stands for a pair has another length. -/
  | pairLength (length : Nat)
  /-- A binding is neither a name nor a pair. -/
  | notBinding (found : Json.Value)
  /-- The imported name is the empty text. -/
  | emptyName
  deriving Repr

/-- The words for the fault of an entry. -/
def EntryFault.text : EntryFault → String
  | notEntry => "expected a module path or a mapping of module paths to imports"
  | notSpecifiers found =>
    "expected a namespace name or a list of named imports, found " ++ found.text
  | pairNotStrings pair =>
    "binding pair must contain two strings, found " ++ (Json.Value.array pair).text
  | pairLength length => "binding pair must have exactly two entries, found " ++ toString length
  | notBinding found => "expected a name or a [from, as] pair, found " ++ found.text
  | emptyName => "imported name is empty"

/-- What is wrong with a component override. -/
inductive OverrideFault where
  | emptyElement
  /-- An object does not hold a name and a path. -/
  | notReference
  /-- The value is neither a path nor an object. -/
  | notComponent (found : Json.Value)
  deriving Repr

/-- The words for the fault of an override. -/
def OverrideFault.text : OverrideFault → String
  | emptyElement => "element name is empty"
  | notReference => "expected \x7b name, from \x7d with string values"
  | notComponent found => "expected a module path or \x7b name, from \x7d, found " ++ found.text

/-- Why a file could not be read as text. -/
inductive FileFault where
  | missing
  | notText
  deriving DecidableEq, Repr

/-- The words for the fault of a file. -/
def FileFault.text : FileFault → String
  | missing => "No such file or directory (os error 2)"
  | notText => "stream did not contain valid UTF-8"

/-- Failures of configuring imports or of putting them into documents. -/
inductive Error where
  /-- A list of named imports is empty. -/
  | emptyNamedImports (path : String)
  | invalidEntry (path : String) (fault : EntryFault)
  /-- A local name is no identifier. -/
  | invalidIdentifier (path identifier : String)
  | invalidOverride (element : String) (fault : OverrideFault)
  /-- A generated fragment is no module code. -/
  | fragment (kind : FragmentKind) (problems : List String) (text : String)
  /-- A document does not follow its grammar. -/
  | document (message : String) (place : Location)
  /-- A document cannot be compiled. -/
  | compile (message : String)
  /-- The extension of a configuration file is not known. -/
  | unsupportedFormat (extension : Option String)
  | json (words : String)
  | yaml (fault : Yaml.Fault)
  | file (fault : FileFault)
  deriving Repr

namespace Error

/-- The words for an error. -/
def message : Error → String
  | emptyNamedImports path => "Named import of \"" ++ path ++ "\" must list at least one binding"
  | invalidEntry path fault => "Invalid import entry for \"" ++ path ++ "\": " ++ fault.text
  | invalidIdentifier path identifier =>
    "\"" ++ identifier ++ "\" (from \"" ++ path ++ "\") is not a valid identifier"
  | invalidOverride element fault =>
    "Invalid default component override for <" ++ element ++ ">: " ++ fault.text
  | fragment kind problems text =>
    "Internal error: generated " ++ kind.text ++ " failed to parse: " ++
      "; ".intercalate problems ++ "\n--- fragment ---\n" ++ text
  | document message place => "Parse error at " ++ place.text ++ ": " ++ message
  | compile message => "MDX compilation error: " ++ message
  | unsupportedFormat extension =>
    "Unsupported configuration format: " ++ extension.getD "<none>"
  | json words => "Configuration error: " ++ words
  | yaml fault => "Configuration error: " ++ fault.text
  | file fault => "IO error: " ++ fault.text

/-- Whether an error points at the configuration rather than at a fault elsewhere. -/
def isConfigError : Error → Bool
  | emptyNamedImports _ | invalidEntry .. | invalidIdentifier .. | invalidOverride ..
  | unsupportedFormat _ | json _ | yaml _ => true
  | fragment .. | document .. | compile _ | file _ => false

end Error

end PagePrelude
