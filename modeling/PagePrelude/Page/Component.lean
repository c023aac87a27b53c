import PagePrelude.Page.Markup
import PagePrelude.Page.Usage

/-!
# The component of a page

A page is exported as a component. One function makes the content, another puts it into
a layout: that of the page, or one that is handed in.
-/

namespace PagePrelude.Page

open PagePrelude.Module

/-- The variable that holds the layout. -/
def layoutName : String := "MDXLayout"

/-- The function that makes the content. -/
def contentName : String := "_createMdxContent"

/-- The exported component. -/
def componentName : String := "MDXContent"

/-- The function that complains about a missing value. -/
def complaintName : String := "_missingMdxReference"

/-- What a component is called with. -/
def propsName : String := "props"

/-! ## Layouts -/

/-- A layout as a constant. -/
def layoutConstant (value : Code) : Item :=
  .declaration (.bindings "const" [(.name layoutName, value)])

/-- A layout that another module exports under a name. -/
def layoutImport (exported : ExportName) (source : Source) (attributes : Code) : Item :=
  .imports (some [.named exported layoutName]) source attributes

/-- Whether a name is exported as the default. -/
def isRenamedDefault (specifier : ExportSpecifier) : Bool :=
  specifier.exported == .word "default" && specifier.own != .word "default"

/-- The items that stand for an item, if it exports a layout. -/
def layoutItems? : Item → Option (List Item)
  | .exportDefault _ value => some [layoutConstant value]
  | .exportNames specifiers source attributes =>
    (specifiers.find? isRenamedDefault).map fun found =>
      let others := specifiers.filter (!isRenamedDefault ·)
      let layout :=
        match source with
        | some source => layoutImport found.own source attributes
        | none => layoutConstant (.name found.own.text)
      if others.isEmpty then [layout] else [.exportNames others source attributes, layout]
  | _ => none

/-- Module code of a page without its layout, and where that was. -/
structure OwnCode where
  items : List Item := []
  layout : Option Span := none

/-- Adds an item that stands at some place. -/
def OwnCode.add (own : OwnCode) (item : Item) (place : Span) : Except Markdown.Problem OwnCode :=
  match layoutItems? item with
  | none => .ok { own with items := own.items ++ [item] }
  | some items =>
    match own.layout with
    | some first => .error ⟨.secondLayout first.start first.stop, place.start⟩
    | none => .ok { items := own.items ++ items, layout := some place }

/-- Adds a piece of code. Code that cannot be read was refused before. -/
def OwnCode.addCode (own : OwnCode) (code : String) (start : Point) :
    Except Markdown.Problem OwnCode :=
  let point (offset : Nat) := start.within offset code.toList
  match readPlaced code with
  | .ok items =>
    items.foldlM (fun own placed =>
      own.add placed.item ⟨point placed.start, point placed.stop⟩) own
  | .error _ => .ok own

mutual

/-- Adds the module code in a part of a page. -/
def OwnCode.addPart (own : OwnCode) : Content → Except Markdown.Problem OwnCode
  | .moduleCode code start => own.addCode code start
  | .element _ _ children | .authored _ _ children => own.addParts children
  | .text _ | .expression .. => .ok own

/-- Adds the module code in parts of a page. -/
def OwnCode.addParts (own : OwnCode) : List Content → Except Markdown.Problem OwnCode
  | [] => .ok own
  | part :: parts => do (← own.addPart part).addParts parts

end

/-! ## Names -/

/-- The names that a declaration declares. -/
def declarationNames : Declaration → List String
  | .bindings _ declarators => declarators.flatMap fun (pattern, _) => Parser.patternNames pattern
  | .function name _ | .classBody name _ => [name]

/-- The names that an item declares. -/
def itemNames : Item → List String
  | .imports (some specifiers) _ _ => specifiers.map ImportSpecifier.bound
  | .exportDeclaration declared | .declaration declared => declarationNames declared
  | _ => []

/-! ## Functions -/

/-- The properties that a component is called with. -/
def props : Code := .name propsName

/-- The components that are handed in. -/
def handedIn : Code := .member props "components"

/-- The components that are handed in, or none. -/
def handedInOrNone : Code := .orElse handedIn (.objectOf [])

/-- The declarations that markup needs. -/
def declarationsFor (usage : Usage) : List Code :=
  let wanted := usage.objects.foldl including usage.components
  let pattern := .objectOf (wanted.map Code.shorthand)
  let defaults := usage.tags.map fun tag => Code.propertyOf (.word tag) (.ofText tag)
  let lookedUp := (.name componentsName, .merged [.objectOf defaults, handedIn])
  match usage.tags.isEmpty, wanted.isEmpty with
  | true, true => []
  | true, false => [.constants [(pattern, handedInOrNone)]]
  | false, true => [.constants [lookedUp]]
  | false, false => [.constants [lookedUp, (pattern, .name componentsName)]]

/-- A value by its path. -/
def valueAt : List String → Code
  | [] => .absent
  | first :: words => words.foldl Code.member (.name first)

/-- The test that a value is there. -/
def checkOf (reference : Reference) : Code :=
  let path := ".".intercalate reference.path
  let isComponent := .word (if reference.isComponent then "true" else "false")
  let complaint := .callOf (.name complaintName) [.ofText path, isComponent]
  .node .ifElse [.node (.unary "!") [valueAt reference.path],
    .node .expressionStatement [complaint], .absent]

/-- The function that makes the content. -/
def contentFunction (usage : Usage) (markup : Code) : Item :=
  let statements :=
    declarationsFor usage ++ usage.references.map checkOf ++ [Code.result markup]
  .declaration (.function contentName (.functionOf contentName [props] statements))

/-- The function that puts the content into a layout. -/
def componentFunction (ownLayout : Bool) : Item :=
  let all := [.node .spread [props]]
  let inside := elementOf (.name layoutName) all [elementOf (.name contentName) all []]
  let pattern := .objectOf [.propertyOf (.word "wrapper") (.name layoutName)]
  let statements :=
    if ownLayout then [Code.result inside]
    else
      [.constants [(pattern, handedInOrNone)],
        Code.result (.either (.name layoutName) inside (.callOf (.name contentName) [props]))]
  let input := .node .withDefault [props, .objectOf []]
  .declaration (.function componentName (.functionOf componentName [input] statements))

/-- The function that complains about a missing value. -/
def complaintFunction : Item :=
  let kind := .either (.name "component") (.ofText "component") (.ofText "object")
  let parts : List Code := [.node .parenthesized [kind], .ofText " `", .name "id",
    .ofText ("` to be defined: you likely forgot to import, pass, or provide it.")]
  let words := parts.foldl Code.plus (.ofText "Expected ")
  let thrown := .node .throwing [.node .new [.name "Error", words]]
  .declaration (.function complaintName
    (.functionOf complaintName [.name "id", .name "component"] [thrown]))

/-- The items of a page. -/
def itemsOf (parts : List Content) : Except Markdown.Problem (List Item) := do
  let markup ← pageMarkup parts
  let own ← ({} : OwnCode).addParts parts
  let scope := propsName :: contentName :: own.items.flatMap itemNames
  let usage := usedBy scope {} markup
  let exported := .exportDefault false (.name componentName)
  let complaint := if usage.references.isEmpty then [] else [complaintFunction]
  return own.items ++
    [contentFunction usage markup, componentFunction own.layout.isSome, exported] ++ complaint

end PagePrelude.Page
