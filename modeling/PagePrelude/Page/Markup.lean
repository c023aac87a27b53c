import PagePrelude.Markdown.Fault
import PagePrelude.Page.Content
import PagePrelude.Page.Dialect
import PagePrelude.Page.Name

/-!
# Content as markup

The content of a page as module code with elements in it. The elements that Markdown
gives rise to are looked up in an object, so that they can be overridden.
-/

namespace PagePrelude.Page

open PagePrelude.Module

/-- The name of an element of the author. -/
def authoredName (name : String) : Code :=
  match name.splitOn ":" with
  | [space, word] => .node .namespaced [.name space, .name word]
  | _ =>
    match name.splitOn "." with
    | first :: words => words.foldl Code.member (.name first)
    | [] => .name name

/-- An attribute with a value. -/
def attributeOf (name : String) (value : Code) : Code :=
  .node .markupAttribute [authoredName name, value]

/-- A property as an attribute. -/
def Property.code (name : String) : Property → Code
  | .flag => attributeOf name .absent
  | .text value => attributeOf name (.ofText value)

/-- The code of an expression, whose elements are looked up as those of Markdown are. Code that
cannot be read was refused before. -/
def expressionCode (code : String) : Option Code :=
  match readExpression code with
  | .ok (found, _) => found.map lookedUp
  | .error _ => none

/-- The value that attributes are spread from. -/
def spreadValue (code : String) (start : Point) : Except Markdown.Problem Code :=
  let fault (fault : Markdown.CodeFault) := .error ⟨.compiledCode true fault, start⟩
  match expressionCode (attributesText code) with
  | some (.node .parenthesized [.node .object [.node .spread [value]]]) => .ok value
  | some (.node .parenthesized [.node .object (_ :: _ :: _)]) => fault .moreThanSpread
  | _ => fault .notSpread

/-- An attribute of the author. -/
def authoredAttribute : Attribute → Except Markdown.Problem Code
  | .property name .absent => .ok (attributeOf name .absent)
  | .property name (.literal text) => .ok (attributeOf name (.ofText text))
  | .property name (.expression code _) =>
    .ok (attributeOf name (.node .container (expressionCode code).toList))
  | .spread code start => do return .node .spread [← spreadValue code start]

/-- An element. -/
def elementOf (name : Code) (attributes children : List Code) : Code :=
  .node .element (name :: .node .attributeList attributes :: children)

mutual

/-- The markup for a part of a page. Module code is no markup. -/
def Content.markup : Content → Except Markdown.Problem (List Code)
  | .text value => .ok [.node .container [.ofText value]]
  | .element name properties children => do
    let attributes := properties.map fun (name, value) => value.code name
    return [elementOf (lookedUpName name) attributes (← markupOf children)]
  | .authored none _ children => do return [.node .markupFragment (← markupOf children)]
  | .authored (some name) attributes children => do
    let attributes ← attributes.mapM authoredAttribute
    return [elementOf (authoredName name) attributes (← markupOf children)]
  | .expression code _ => .ok [.node .container (expressionCode code).toList]
  | .moduleCode .. => .ok []

/-- The markup for parts of a page. -/
def markupOf : List Content → Except Markdown.Problem (List Code)
  | [] => .ok []
  | part :: parts => do
    let first ← part.markup
    let rest ← markupOf parts
    return first ++ rest

end

/-- The markup for a page: its only element, or a fragment. -/
def pageMarkup (parts : List Content) : Except Markdown.Problem Code := do
  let shown := parts.filter fun
    | .moduleCode .. => false
    | _ => true
  match ← markupOf (Content.trim shown) with
  | [.node .element inside] => return .node .element inside
  | children => return .node .markupFragment children

end PagePrelude.Page
