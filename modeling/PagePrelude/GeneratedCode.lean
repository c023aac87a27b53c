import PagePrelude.Fragment
import PagePrelude.Module.Exports
import PagePrelude.Node

/-!
# Generated module code, checked

A fragment becomes a node only after its text was read as module code. The library
itself writes fragments, so a text that cannot be read is its own fault.
-/

namespace PagePrelude

/-- Generated module code that was read without a problem. -/
structure GeneratedCode where
  kind : FragmentKind
  /-- The local names that it imports, in order. -/
  names : List String
  text : String
  deriving DecidableEq, Repr

namespace GeneratedCode

/-- The text of several fragments. Fragments without statements leave no trace. -/
def joined (fragments : List Fragment) : String :=
  "\n".intercalate ((fragments.filter (!·.isEmpty)).map Fragment.text)

/-- Checks several fragments together. -/
def ofFragments (kind : FragmentKind) (fragments : List Fragment) : Except Error GeneratedCode :=
  let text := joined fragments
  match Module.read text with
  | .ok items => .ok { kind, names := Module.importedNames items, text }
  | .error problems => .error (.fragment kind (problems.map (·.problem.text)) text)

/-- Checks one fragment. -/
def ofFragment (fragment : Fragment) : Except Error GeneratedCode :=
  ofFragments fragment.kind [fragment]

/-- The node that stands for the code in a document. -/
def node (code : GeneratedCode) : Node :=
  .ofCode code.text

end GeneratedCode

end PagePrelude
