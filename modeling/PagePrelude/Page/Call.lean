import PagePrelude.Markdown.Reference
import PagePrelude.Module.Change
import PagePrelude.Page.Name

/-!
# Elements as calls

Markup is no module code for those who run it. Each element becomes the call of a
function with the name of the element, its properties and its children; which functions
are called is recorded, because they have to be imported.
-/

namespace PagePrelude.Page

open PagePrelude.Module

/-- The functions and values that calls need. -/
structure Needs where
  fragment : Bool := false
  /-- The function for elements with at most one child. -/
  single : Bool := false
  /-- The function for elements with several children. -/
  several : Bool := false
  deriving DecidableEq, Repr

/-- Changes code and records what it needs. -/
abbrev Calling := StateM Needs

/-! ## Text between tags -/

/-- The lines of a text. -/
def linesOf : List Char → List (List Char)
  | [] => [[]]
  | c :: rest =>
    if c = '\n' || c = '\r' then [] :: linesOf rest
    else
      match linesOf rest with
      | [] => [[c]]
      | line :: lines => (c :: line) :: lines

/-- Lines without the spaces that stand next to a line break. `first` says that none comes
before. -/
def trimLines (first : Bool) : List (List Char) → List (List Char)
  | [] => []
  | line :: lines =>
    let begun := if first then line else line.dropWhile (· = ' ')
    let ended := if lines.isEmpty then begun else (begun.reverse.dropWhile (· = ' ')).reverse
    ended :: trimLines false lines

/-- The value of text between tags: its lines that are not empty, on one line. -/
def shownText (spelling : String) : String :=
  let resolved := Markdown.resolveReferences 0 spelling.toList
  let chars := resolved.map fun c => if c = '\t' then ' ' else c
  let lines := (trimLines true (linesOf chars)).filter (!·.isEmpty)
  " ".intercalate (lines.map String.ofList)

/-! ## Properties -/

/-- The properties of an element, as far as they were read. -/
structure Properties where
  /-- Objects and values whose properties are taken over. -/
  objects : List Code := []
  /-- Properties of the object that is not finished. -/
  fields : List Code := []
  /-- What tells the element from its siblings. -/
  key : Option Code := none

namespace Properties

/-- Finishes the object. -/
def finish (properties : Properties) : Properties :=
  if properties.fields.isEmpty then properties
  else
    { properties with
      objects := properties.objects ++ [.objectOf properties.fields], fields := [] }

/-- The name of an attribute as the key of a property. -/
def keyOf : Code → Code
  | .name text => if Identifier.isShaped text then .word text else .ofText text
  | .node .namespaced [.name space, .name word] => .ofText (space ++ ":" ++ word)
  | name => name

/-- The value of an attribute. -/
def valueOf : Code → Code
  | .absent => .word "true"
  | .string value _ => .ofText value
  | .node .container [value] => value
  | value => value

/-- Adds an attribute. -/
def add (properties : Properties) : Code → Properties
  | .node .markupAttribute [.name "key", value] => { properties with key := some (valueOf value) }
  | .node .markupAttribute [name, value] =>
    { properties with
      fields := properties.fields ++ [.propertyOf (keyOf name) (valueOf value)] }
  | .node .spread [value] =>
    let finished := properties.finish
    { finished with objects := finished.objects ++ [value] }
  | _ => properties

/-- Adds children. -/
def addChildren (properties : Properties) (children : List Code) : Properties :=
  let field (value : Code) := [.propertyOf (.word "children") value]
  { properties with
    fields := properties.fields ++
      match children with
      | [] => []
      | [child] => field child
      | children => field (.node .array children) }

/-- Whether code is an object that nobody else holds. -/
def isFresh : Code → Bool
  | .node .object _ => true
  | _ => false

/-- The properties as one value. Values of the author are not changed. -/
def value (properties : Properties) : Code :=
  match properties.finish.objects with
  | [] => .objectOf []
  | [object] => object
  | first :: others =>
    if isFresh first then .merged (first :: others) else .merged (.objectOf [] :: first :: others)

end Properties

/-! ## Calls -/

/-- The name of an element as a value. -/
def calledName : Code → Code
  | .name text => if isLiteralName text then .ofText text else .name text
  | .node .namespaced [.name space, .name word] => .ofText (space ++ ":" ++ word)
  | name => name

/-- The children that a part of the content of an element gives. -/
def childrenOf : Code → List Code
  | .chars spelling =>
    let text := shownText spelling
    if text.isEmpty then [] else [.ofText text]
  | .node .container inside => inside
  | child => [child]

/-- The call for an element whose content has been changed. -/
def callFor (name : Code) (attributes content : List Code) : Calling Code := do
  let children := content.flatMap childrenOf
  let properties := (attributes.foldl Properties.add {}).addChildren children
  let several := children.length > 1
  modify fun needs =>
    if several then { needs with several := true } else { needs with single := true }
  let callee := if several then "_jsxs" else "_jsx"
  return .callOf (.name callee) ([name, properties.value] ++ properties.key.toList)

/-- A node whose parts have been changed. -/
def nodeToCall (shape : Shape) (parts : List Code) : Calling Code :=
  match shape, parts with
  | .element, name :: .node .attributeList attributes :: content =>
    callFor (calledName name) attributes content
  | .markupFragment, content => do
    modify fun needs => { needs with fragment := true }
    callFor (.name "_Fragment") [] content
  | shape, parts => return .node shape parts

mutual

/-- Code with calls in place of elements. -/
def toCalls : Code → Calling Code
  | .node shape parts => do nodeToCall shape (← partsToCalls parts)
  | code => return code

/-- Parts of code with calls in place of elements. -/
def partsToCalls : List Code → Calling (List Code)
  | [] => return []
  | part :: parts => return (← toCalls part) :: (← partsToCalls parts)

end

/-- The import of what calls need from a module. -/
def Needs.imports (needs : Needs) (path : String) : List Item :=
  let specifier (needed : Bool) (exported bound : String) : List ImportSpecifier :=
    if needed then [.named (.word exported) bound] else []
  let specifiers := specifier needs.fragment "Fragment" "_Fragment" ++
    specifier needs.single "jsx" "_jsx" ++ specifier needs.several "jsxs" "_jsxs"
  if specifiers.isEmpty then []
  else [.imports (some specifiers) ⟨path, spelledString path⟩ .absent]

/-- Items with calls in place of elements, after the import that they need. -/
def withCalls (path : String) (items : List Item) : List Item :=
  let (items, needs) := (items.mapM (Item.changed toCalls)).run {}
  needs.imports path ++ items

end PagePrelude.Page
