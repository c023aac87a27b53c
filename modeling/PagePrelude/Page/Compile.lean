import PagePrelude.Document
import PagePrelude.Module.Printer
import PagePrelude.Page.Call
import PagePrelude.Page.Component

/-!
# Compiling documents

A document becomes module code that exports it as a component.
-/

namespace PagePrelude

namespace Page

/-- How pages are compiled. -/
structure Options where
  /-- The package whose functions make elements. -/
  importSource : Option String := none
  /-- Whether elements stay markup. -/
  keepsMarkup : Bool := false
  deriving DecidableEq, Repr

/-- The module that the functions for elements are imported from. -/
def Options.runtime (options : Options) : String :=
  options.importSource.getD "react" ++ "/jsx-runtime"

/-- Compiles a text without a data block. -/
def compile (options : Options) (source : String) : Except Markdown.Problem String := do
  let tree ← Markdown.read dialect source
  let items ← itemsOf (Content.ofNode tree)
  let items := if options.keepsMarkup then items else withCalls options.runtime items
  return Module.textOfItems items

/-- A problem in words, with its place and the rule that it breaks. -/
def problemText (problem : Markdown.Problem) : String :=
  Markdown.Fault.pointText problem.place ++ ": " ++ problem.fault.text ++
    " (" ++ problem.fault.rule ++ ")"

end Page

/-- A document after compilation. -/
structure Compiled where
  code : String
  /-- The data block, without its fences. -/
  matter : Option String
  injection : Injection
  deriving Repr

/-- Injects into a document and compiles what follows its data block. -/
def Document.compile (injector : Injector) (options : Page.Options) (kind : DocumentKind)
    (source : String) : Except Error Compiled := do
  let injected ← Document.inject injector kind source
  let code ← (Page.compile options injected.body).mapError fun problem =>
    .compile (Page.problemText problem)
  return { code, matter := injected.matter, injection := injected.injection }

end PagePrelude
