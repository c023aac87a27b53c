import PagePrelude.Path

/-!
# Module specifiers

A configured module path that starts with a dot names a file relative to the
directory of its configuration; any other path names a package and stays as written.
-/

namespace PagePrelude

/-- A configured module path, classified. -/
inductive Specifier where
  /-- A file, resolved against the declaring directory. -/
  | file (path : Path)
  /-- A package name or any other specifier. -/
  | package (name : String)
  deriving DecidableEq, Repr

namespace Specifier

/-- Whether a module path is relative to the declaring directory. -/
def isRelative (path : String) : Bool :=
  path.toList.head? == some '.'

/-- Classifies a module path, resolving a relative one against `root`. -/
def classify (path root : String) : Specifier :=
  if isRelative path then
    .file ((Path.ofText root).append (Path.steps path)).normalize
  else .package path

/-- The text that stands in a generated import. -/
def source : Specifier → String
  | .file path => path.toText
  | .package name => name

/-- The import text of a module path declared in `root`. -/
def resolve (path root : String) : String :=
  (classify path root).source

end Specifier

end PagePrelude
