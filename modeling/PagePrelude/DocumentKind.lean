import PagePrelude.Path

/-!
# Kinds of documents
-/

namespace PagePrelude

/-- The documents a site compiles. -/
inductive DocumentKind where
  /-- Markdown, rendered without a module scope. -/
  | markdown
  /-- MDX, compiled to a module with its own imports and exports. -/
  | mdx
  deriving DecidableEq, Repr

namespace DocumentKind

/-- The kind that an extension stands for, in any letter case. -/
def ofExtension (extension : String) : Option DocumentKind :=
  let lower := String.ofList (extension.toList.map Char.toLower)
  if lower = "mdx" then some .mdx
  else if ["md", "markdown", "mdown", "mkd", "mkdn", "mdwn"].contains lower then some .markdown
  else none

/-- The kind of the document at a path. -/
def ofPath (path : String) : Option DocumentKind :=
  (Path.extension path).bind ofExtension

/-- Whether documents of a kind carry module code of their own. -/
def hasModuleCode : DocumentKind → Bool
  | mdx => true
  | markdown => false

end DocumentKind

end PagePrelude
