import PagePrelude.Fragment

/-!
# Page scripts

A Markdown page has no module scope. Its imports are made in a script that copies
every imported name onto an object from which templates read bare names. Component
overrides do not reach such pages.
-/

namespace PagePrelude

/-- Imported names and the object they are copied onto. -/
structure Exposure where
  imports : ImportFragment
  scope : String := "globalThis"
  deriving DecidableEq, Repr

namespace Exposure

/-- The names copied, in order. -/
def names (exposure : Exposure) : List String :=
  exposure.imports.names

/-- The assignment that copies one name. -/
def assignment (scope name : String) : String :=
  scope ++ "." ++ name ++ " = " ++ name ++ ";"

/-- One assignment for every name. -/
def statements (exposure : Exposure) : List String :=
  exposure.names.map (assignment exposure.scope)

/-- The imports followed by the assignments, or nothing if no name is imported. -/
def script (exposure : Exposure) : Option String :=
  if exposure.names.isEmpty then none
  else some ("\n".intercalate (exposure.imports.fragment.text :: exposure.statements))

end Exposure

end PagePrelude
