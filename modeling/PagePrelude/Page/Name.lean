import PagePrelude.Identifier
import PagePrelude.Module.Make

/-!
# Names of elements

A name that starts with a small letter, or that no variable can have, stands for an
element of the target document. Other names are variables that hold components.
-/

namespace PagePrelude.Page

open PagePrelude.Module

/-- Whether the name of an element is no variable. -/
def isLiteralName (name : String) : Bool :=
  name.toList.head?.any Char.isLower || !Identifier.isShaped name

/-- The object in which the elements of Markdown are looked up. -/
def componentsName : String := "_components"

/-- An element that is looked up, so that it can be overridden. -/
def lookedUpName (tag : String) : Code := .member (.name componentsName) tag

mutual

/-- Code whose elements are looked up. -/
def lookedUp : Code → Code
  | .node .element (.name tag :: parts) =>
    let name :=
      if isLiteralName tag && Identifier.isShaped tag then lookedUpName tag else .name tag
    .node .element (name :: lookedUpParts parts)
  | .node shape parts => .node shape (lookedUpParts parts)
  | code => code

/-- Parts of code whose elements are looked up. -/
def lookedUpParts : List Code → List Code
  | [] => []
  | part :: parts => lookedUp part :: lookedUpParts parts

end

end PagePrelude.Page
