import PagePrelude.Module.Statement
import PagePrelude.Page.Name

/-!
# What a page uses

The elements and components that the markup of a page names. Components are expected
from outside if nothing in scope has their name.
-/

namespace PagePrelude.Page

open PagePrelude.Module

/-- A value that has to be there. -/
structure Reference where
  /-- A variable and the parts of it that lead to the value. -/
  path : List String
  /-- Whether the value is a component rather than an object that holds some. -/
  isComponent : Bool
  deriving DecidableEq, Repr

/-- What markup uses, in the order of first use. -/
structure Usage where
  /-- Elements that are looked up. -/
  tags : List String := []
  components : List String := []
  /-- Objects that hold components. -/
  objects : List String := []
  references : List Reference := []
  deriving DecidableEq, Repr

/-- A list with an entry that is at its end if it was not there. -/
def including [BEq α] (list : List α) (entry : α) : List α :=
  if list.contains entry then list else list ++ [entry]

/-! ## Scopes -/

mutual

/-- The names that a pattern binds, given as code. -/
def boundBy : Code → List String
  | .name text => [text]
  | .node (.property ..) [_, target] => boundBy target
  | .node .withDefault [target, _] => boundBy target
  | .node .rest parts | .node .object parts | .node .array parts => boundByParts parts
  | .node .parameters parts => boundByParts parts
  | _ => []

/-- The names that patterns bind. -/
def boundByParts : List Code → List String
  | [] => []
  | part :: parts => boundBy part ++ boundByParts parts

end

/-- The names that a statement declares. -/
def declaredBy : Code → List String
  | .node (.bindings _) declarators =>
    declarators.flatMap fun
      | .node .declarator (pattern :: _) => boundBy pattern
      | _ => []
  | .node (.function ..) (name :: _) | .node .classBody (name :: _) => boundBy name
  | _ => []

/-- The names that the statements of a block declare. -/
def declaredIn : Code → List String
  | .node .block statements => statements.flatMap declaredBy
  | _ => []

/-- The names that only the parts of a node see. -/
def introduced (shape : Shape) (parts : List Code) : List String :=
  match shape, parts with
  | .function .., [name, inputs, body] => boundBy name ++ boundBy inputs ++ declaredIn body
  | .arrow _, [inputs, body] => boundBy inputs ++ declaredIn body
  | .classBody, name :: _ => boundBy name
  | .block, statements => statements.flatMap declaredBy
  | .tryCatch, [_, caught, _, _] => boundBy caught
  | .forLoop, first :: _ | .forIn, first :: _ | .forOf _, first :: _ => declaredBy first
  | _, _ => []

/-! ## Elements -/

/-- The words of the name of an element. -/
def pathOf : Code → List String
  | .name text => [text]
  | .node (.access _) [base, .word text] => pathOf base ++ [text]
  | _ => []

/-- References to a value and to all that lead to it. `taken` words were passed. -/
def referencesTo (taken : List String) : List String → List Reference
  | [] => []
  | word :: words =>
    let path := taken ++ [word]
    ⟨path, words.isEmpty⟩ :: referencesTo path words

namespace Usage

/-- Adds a reference. A value that is used as a component is one. -/
def addReference (usage : Usage) (found : Reference) : Usage :=
  let references :=
    if usage.references.any (·.path == found.path) then
      usage.references.map fun known =>
        if known.path == found.path then
          { known with isComponent := known.isComponent || found.isComponent }
        else known
    else usage.references ++ [found]
  { usage with references }

/-- Adds an element by its name. -/
def addElement (scope : List String) (usage : Usage) (name : Code) : Usage :=
  match pathOf name with
  | [] => usage
  | [word] =>
    if isLiteralName word || scope.contains word then usage
    else
      let usage := { usage with components := including usage.components word }
      usage.addReference ⟨[word], true⟩
  | [first, tag] =>
    if first = componentsName then { usage with tags := including usage.tags tag }
    else member first [tag]
  | first :: words => member first words
where
  /-- Adds a component that is part of an object. -/
  member (first : String) (words : List String) : Usage :=
    if scope.contains first then usage
    else
      let usage := { usage with objects := including usage.objects first }
      (referencesTo [] (first :: words)).foldl addReference usage

end Usage

mutual

/-- Adds what code uses, given the names in scope. -/
def usedBy (scope : List String) (usage : Usage) : Code → Usage
  | .node shape parts =>
    let usage :=
      match shape, parts with
      | .element, name :: _ => usage.addElement scope name
      | _, _ => usage
    usedByParts (introduced shape parts ++ scope) usage parts
  | _ => usage

/-- Adds what parts of code use. -/
def usedByParts (scope : List String) (usage : Usage) : List Code → Usage
  | [] => usage
  | part :: parts => usedByParts scope (usedBy scope usage part) parts

end

end PagePrelude.Page
