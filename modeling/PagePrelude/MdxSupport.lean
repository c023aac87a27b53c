import PagePrelude.Notice

/-!
# The order of integrations

Documents with module code are compiled by an integration of their own. It sees the
generated nodes only if it is registered after the one that makes them.
-/

namespace PagePrelude

/-- Whether documents with module code can receive generated nodes. -/
inductive MdxSupport where
  /-- Their compiler runs after the injection, or alone. -/
  | enabled
  /-- Their compiler runs first. -/
  | misordered
  /-- Nothing compiles them. -/
  | missing
  deriving DecidableEq, Repr

namespace MdxSupport

/-- The support that an order of integrations gives. Of repeated names the first one counts. -/
def ofOrder (integrations : List String) : MdxSupport :=
  match integrations.findIdx? (· == mdxIntegration),
      integrations.findIdx? (· == ownIntegration) with
  | none, _ => .missing
  | some mdx, some own => if mdx < own then .misordered else .enabled
  | some _, none => .enabled

/-- What there is to say about an order. -/
def notices : MdxSupport → List Notice
  | enabled => []
  | misordered => [.misordered]
  | missing => [.mdxMissing]

/-- Whether documents with module code are to be transformed. -/
def injects (support : MdxSupport) : Bool :=
  support == enabled

end MdxSupport

end PagePrelude
