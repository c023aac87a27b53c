import PagePrelude.Exposure
import PagePrelude.Injector
import PagePrelude.MdxSupport

/-!
# Integration into a build

At setup the library says what the build is to run: a transform for documents with
module code, and a script for pages without.
-/

namespace PagePrelude

/-- When a script is run. -/
inductive ScriptStage where
  /-- On the server, once for every page. -/
  | page
  deriving DecidableEq, Repr

/-- The name of a stage. -/
def ScriptStage.text : ScriptStage → String
  | page => "page-ssr"

/-- What a build is asked to run. -/
structure Setup where
  support : MdxSupport
  transform : Option Transform
  script : Option (ScriptStage × String)
  notices : List Notice

/-- The checked code of a configuration, for pages of every kind. -/
structure Integration where
  injector : Injector
  exposure : Exposure

namespace Integration

/-- Prepares a configuration. -/
def ofConfig (config : Config) : Except Error Integration := do
  let injector ← Injector.ofConfig config
  return { injector, exposure := { imports := injector.imports } }

/-- What a build with the given integrations is to run. -/
def setup (integration : Integration) (integrations : List String) : Setup :=
  let support := MdxSupport.ofOrder integrations
  { support
    transform :=
      if support.injects && !integration.injector.isIdle then some integration.injector.transform
      else none
    script := integration.exposure.script.map fun script => (.page, script)
    notices := support.notices }

end Integration

end PagePrelude
