import PagePrelude.DocumentKind
import PagePrelude.GeneratedCode

/-!
# Injection into trees

An injector holds the checked code of one configuration and puts it in front of
documents. The author's own export of the component overrides wins over the
generated one; nothing of the author's is changed.
-/

namespace PagePrelude

/-- What became of the exported overrides in a document. -/
inductive OverrideOutcome where
  /-- There are no overrides. -/
  | unused
  /-- The export was put in. -/
  | injected
  /-- The document has its own export. -/
  | authored
  deriving DecidableEq, Repr

/-- What was put in front of a document. -/
structure Injection where
  imports : Bool := false
  overrides : OverrideOutcome := .unused
  deriving DecidableEq, Repr

/-- How many nodes were put in front. -/
def Injection.count (injection : Injection) : Nat :=
  (if injection.imports then 1 else 0) + (if injection.overrides = .injected then 1 else 0)

/-- A tree after an injection, with a report. -/
structure Injected where
  tree : Node
  injection : Injection
  notices : List Notice
  deriving Repr

/-- Something that changes the tree of a document of some kind. -/
abbrev Transform := DocumentKind → Node → Injected

namespace Node

/-- Whether one of several pieces of code exports a name. The search ends at the first that
does. -/
def someExports (name : String) (pieces : List String) (reader : Module.Reader := Module.read) :
    Bool × List Notice :=
  match pieces with
  | [] => (false, [])
  | code :: more =>
    match Module.exports code name reader with
    | (true, notices) => (true, notices)
    | (false, notices) =>
      let (found, later) := someExports name more reader
      (found, notices ++ later)

/-- Whether the module code at the top level of a tree exports a name. Where no piece does so by
itself, all of them are read together, since a statement may be spread over several. -/
def exports (tree : Node) (name : String) (reader : Module.Reader := Module.read) :
    Bool × List Notice :=
  let pieces := tree.topCode
  match someExports name pieces reader with
  | (true, notices) => (true, notices)
  | (false, notices) =>
    if pieces.length ≤ 1 then (false, notices)
    else
      let (found, later) := Module.exports ("\n\n".intercalate pieces) name reader
      (found, notices ++ later)

end Node

/-- The checked code of a configuration. -/
structure Injector where
  imports : ImportFragment
  overrides : OverrideFragments
  /-- All imports, if there are any. -/
  importCode : Option GeneratedCode
  /-- The export of the overrides, if there are any. -/
  exportCode : Option GeneratedCode
  deriving DecidableEq, Repr

namespace Injector

/-- Generates and checks the code of a configuration. -/
def ofConfig (config : Config) : Except Error Injector := do
  let imports ← ImportFragment.ofConfig config
  let overrides := OverrideFragments.ofConfig config
  let importCode ←
    if imports.fragment.isEmpty && overrides.imports.isEmpty then pure none
    else some <$> GeneratedCode.ofFragments .imports [imports.fragment, overrides.imports]
  let exportCode ←
    if overrides.exports.isEmpty then pure none
    else some <$> GeneratedCode.ofFragment overrides.exports
  return { imports, overrides, importCode, exportCode }

/-- The injector of a configuration without imports and overrides. -/
def idle : Injector where
  imports := { fragment := .ofStatements .imports [], names := [] }
  overrides := { imports := .ofStatements .imports [], exports := .ofStatements .exports [] }
  importCode := none
  exportCode := none

/-- Whether no document is ever changed. -/
def isIdle (injector : Injector) : Bool :=
  injector.importCode.isNone && injector.exportCode.isNone

/-- What becomes of the export, given whether the author has one. -/
def outcome (injector : Injector) (authored : Bool) : OverrideOutcome :=
  match injector.exportCode with
  | none => .unused
  | some _ => if authored then .authored else .injected

/-- The nodes that an outcome calls for: the imports, then the export. -/
def nodes (injector : Injector) (outcome : OverrideOutcome) : List Node :=
  let exports := if outcome = .injected then injector.exportCode else none
  (injector.importCode.toList ++ exports.toList).map GeneratedCode.node

/-- Whether the author exports overrides; nobody looks where there are none to replace. -/
def authored (injector : Injector) (tree : Node) (reader : Module.Reader := Module.read) :
    Bool × List Notice :=
  if injector.exportCode.isSome then tree.exports componentsExport reader else (false, [])

/-- Puts the generated code in front of a tree. Only the root of a document takes it. -/
def inject (injector : Injector) (tree : Node) (reader : Module.Reader := Module.read) :
    Injected :=
  let (authored, notices) := injector.authored tree reader
  match tree with
  | .mk .root span children =>
    let outcome := injector.outcome authored
    let remark := if outcome = .authored then [.authorExport componentsExport] else []
    { tree := .mk .root span (injector.nodes outcome ++ children)
      injection := { imports := injector.importCode.isSome, overrides := outcome }
      notices := notices ++ remark }
  | other => { tree := other, injection := {}, notices := notices ++ [.notRoot] }

/-- The transform of an injector: documents without module code of their own are left alone. -/
def transform (injector : Injector) : Transform := fun kind tree =>
  if kind.hasModuleCode then injector.inject tree
  else { tree, injection := {}, notices := [] }

end Injector

end PagePrelude
