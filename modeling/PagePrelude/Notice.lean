/-!
# Notices

What the library reports besides its results: remarks that never fail a build.
-/

namespace PagePrelude

/-- The name under which the integration is registered. -/
def ownIntegration : String := "astro-auto-import"

/-- The name of the integration that compiles documents with module code. -/
def mdxIntegration : String := "@astrojs/mdx"

/-- How much a notice matters. -/
inductive Severity where
  | warning
  | debug
  deriving DecidableEq, Repr

/-- A remark about a build or a document. -/
inductive Notice where
  /-- Module code was skipped in the search for an exported name. -/
  | unreadable (name : String)
  /-- The author's export of a name takes the place of the generated one. -/
  | authorExport (name : String)
  /-- A tree without a list of top-level nodes was left alone. -/
  | notRoot
  /-- Nothing compiles documents with module code. -/
  | mdxMissing
  /-- The compiler of such documents runs too early. -/
  | misordered
  deriving DecidableEq, Repr

namespace Notice

/-- How much a notice matters. -/
def severity : Notice → Severity
  | unreadable _ | authorExport _ | mdxMissing => .debug
  | notRoot | misordered => .warning

/-- The words of a notice. -/
def text : Notice → String
  | unreadable name =>
    "Skipping unparsable module code while scanning for `" ++ name ++ "` export"
  | authorExport name => "Document exports `" ++ name ++ "`; skipping default components"
  | notRoot => "Auto-import injection expects a root node; document left unchanged"
  | mdxMissing => mdxIntegration ++ " not registered; MDX injection disabled"
  | misordered =>
    ownIntegration ++ " is registered after " ++ mdxIntegration ++
      "; auto-imports will not be injected into MDX files. Move " ++ ownIntegration ++ " before " ++
      mdxIntegration ++ " in your integrations list."

end Notice

end PagePrelude
