import PagePrelude.ImportStatement
import PagePrelude.Text.Space

/-!
# Generated module code

A configuration determines three fragments: the imports it lists, the imports of the
components that replace elements, and the export that names those components. None
of them varies from document to document.
-/

namespace PagePrelude

/-- Generated statements, one a line. -/
structure Fragment where
  kind : FragmentKind
  text : String
  deriving DecidableEq, Repr

namespace Fragment

/-- The fragment made of some statements. -/
def ofStatements (kind : FragmentKind) (statements : List String) : Fragment :=
  { kind, text := "\n".intercalate statements }

/-- Whether a fragment holds no statement. -/
def isEmpty (fragment : Fragment) : Bool :=
  Text.isBlank fragment.text

end Fragment

/-- The export that carries component overrides. -/
def componentsExport : String := "components"

/-- The fragment of the configured imports, with the names it binds. -/
structure ImportFragment where
  fragment : Fragment
  names : List String
  deriving DecidableEq, Repr

/-- The imports that a configuration lists, in order. -/
def ImportFragment.ofConfig (config : Config) : Except Error ImportFragment := do
  let statements ← config.imports.mapM (ImportStatement.ofEntry config.root)
  return {
    fragment := .ofStatements .imports (statements.map ImportStatement.text)
    names := statements.flatMap ImportStatement.names }

namespace Override

/-- The name under which the override at an index is imported. The index keeps apart elements whose
names agree once they are sanitized. -/
def bound (index : Nat) (override : Override) : String :=
  "__AutoImportComponent" ++ toString index ++ "_" ++ Identifier.sanitize override.element

/-- The import of an override. -/
def statement (root : String) (index : Nat) (override : Override) : ImportStatement :=
  { clause :=
      match override.component with
      | .default _ => .default (override.bound index)
      | .named name _ => .renamed ⟨name, override.bound index⟩
    source := Specifier.resolve override.component.path root }

/-- The property of the exported object that refers to an override. -/
def property (index : Nat) (override : Override) : String :=
  propertyName override.element ++ ": " ++ override.bound index

end Override

/-- The fragments of the component overrides. -/
structure OverrideFragments where
  /-- The imports of the components, which every document may hold. -/
  imports : Fragment
  /-- The export of the components, withheld from documents that have their own. -/
  exports : Fragment
  deriving DecidableEq, Repr

namespace OverrideFragments

/-- The statement that exports an object of overrides; none where nothing is overridden. -/
def exportStatements (overrides : List Override) : List String :=
  if overrides.isEmpty then []
  else
    let properties := overrides.mapIdx Override.property
    ["export const " ++ componentsExport ++ " = \x7b " ++ ", ".intercalate properties ++ " \x7d;"]

/-- The fragments of a configuration's overrides, in order. -/
def ofConfig (config : Config) : OverrideFragments :=
  let statements := config.overrides.mapIdx (Override.statement config.root)
  { imports := .ofStatements .imports (statements.map ImportStatement.text)
    exports := .ofStatements .exports (exportStatements config.overrides) }

end OverrideFragments

end PagePrelude
