import PagePrelude.Node

/-!
# The content of a page

A document as the elements that it stands for. Elements that Markdown gives rise to are
told from those that the author wrote, because only the former can be overridden.
Between blocks stand line feeds.
-/

namespace PagePrelude.Page

/-- The value of a property. -/
inductive Property where
  | flag
  | text (value : String)
  deriving DecidableEq, Repr

/-- A part of a page. -/
inductive Content where
  | text (value : String)
  /-- An element that Markdown gives rise to. -/
  | element (name : String) (properties : List (String × Property)) (children : List Content)
  /-- An element that the author wrote; fragments have no name. -/
  | authored (name : Option String) (attributes : List Attribute) (children : List Content)
  | expression (code : String) (start : Point)
  | moduleCode (code : String) (start : Point)
  deriving Repr, Inhabited

namespace Content

/-- A line feed between blocks. -/
def lineFeed : Content := .text "\n"

/-- Parts with line feeds between them. -/
def spread : List Content → List Content
  | [] => []
  | [last] => [last]
  | first :: rest => first :: lineFeed :: spread rest

/-- Parts with line feeds between and around them. -/
def spreadAround (parts : List Content) : List Content :=
  if parts.isEmpty then [lineFeed] else lineFeed :: spread parts ++ [lineFeed]

/-- Whether a text only keeps elements apart. -/
def isGap (text : String) : Bool :=
  text.toList.all fun c => c = ' ' || c = '\t' || c = '\n' || c = '\r' || c = '\x0c'

/-- Whether a part is an element or an expression of the author. -/
def isAuthored : Content → Bool
  | authored .. | expression .. => true
  | _ => false

/-- Whether a part only keeps others apart. -/
def isBlank : Content → Bool
  | text value => isGap value
  | _ => false

/-- Whether a part is a paragraph. -/
def isParagraph : Content → Bool
  | element "p" _ _ => true
  | _ => false

/-- A paragraph. One that only holds elements and expressions of the author is no paragraph. -/
def paragraph (inside : List Content) : List Content :=
  if inside.any isAuthored && inside.all fun part => part.isAuthored || part.isBlank then inside
  else [.element "p" [] inside]

/-- A destination with the characters escaped that have no place in one. -/
def destinationChars : List Char → List Char
  | [] => []
  | '%' :: a :: b :: rest =>
    if a.isAlphanum && b.isAlphanum then '%' :: a :: b :: destinationChars rest
    else "%25".toList ++ destinationChars (a :: b :: rest)
  | '&' :: rest => "&amp;".toList ++ destinationChars rest
  | c :: rest =>
    let safe := c.isAlphanum || "!#$'()*+,-./:;=?@_~".toList.contains c
    (if safe then [c] else escaped c) ++ destinationChars rest
where
  /-- The bytes of a character as numbers. -/
  escaped (c : Char) : List Char :=
    c.toString.toUTF8.toList.flatMap fun byte =>
      '%' :: (Nat.toDigits 16 (byte.toNat + 256)).tail.map Char.toUpper

/-- The property for a destination. -/
def destination (name text : String) : String × Property :=
  (name, .text (String.ofList (destinationChars text.toList)))

/-- The property for a title, if there is one. -/
def titled (title : Option String) : List (String × Property) :=
  title.toList.map fun text => ("title", .text text)

/-- A block of code. -/
def codeBlock (language : Option String) (value : String) : Content :=
  let properties := language.toList.map fun name => ("className", .text ("language-" ++ name))
  .element "pre" [] [.element "code" properties [.text (value ++ "\n")]]

/-- The box in front of an item. -/
def checkBox (checked : Bool) : Content :=
  .element "input"
    (("type", .text "checkbox") :: (if checked then [("checked", .flag)] else []) ++
      [("disabled", .flag)]) []

/-- The parts of an item with its box, which goes into the first paragraph. -/
def withBox (box : Content) : List Content → List Content
  | .element "p" properties inside :: rest =>
    .element "p" properties (box :: if inside.isEmpty then [] else .text " " :: inside) :: rest
  | parts => .element "p" [] [box] :: parts

/-- The parts of an item that is not the first. Paragraphs of tight items are no paragraphs. -/
def itemRest (loose : Bool) : List Content → List Content
  | [] => []
  | .element "p" properties inside :: rest =>
    lineFeed :: (if loose then [.element "p" properties inside] else inside) ++ itemRest loose rest
  | part :: rest => lineFeed :: part :: itemRest loose rest

/-- The parts of an item, with line feeds where they belong. -/
def itemParts (loose : Bool) (parts : List Content) : List Content :=
  let body :=
    match loose, parts with
    | false, .element "p" _ inside :: rest => inside ++ itemRest false rest
    | _, parts => itemRest loose parts
  let ended := parts.getLast?.any fun last => loose || !last.isParagraph
  if ended then body ++ [lineFeed] else body

/-- An item of a list. -/
def item (loose : Bool) (checked : Option Bool) (parts : List Content) : Content :=
  match checked with
  | none => .element "li" [] (itemParts loose parts)
  | some checked =>
    .element "li" [("className", .text "task-list-item")]
      (itemParts loose (withBox (checkBox checked) parts))

/-- The properties of a list with a first number. -/
def listProperties (start : Option Nat) (boxed : Bool) : List (String × Property) :=
  (match start with
    | some n => if n = 1 then [] else [("start", .text (toString n))]
    | none => []) ++
    if boxed then [("className", .text "contains-task-list")] else []

/-- The property for an alignment, if there is one. -/
def aligned : Alignment → List (String × Property)
  | .left => [("align", .text "left")]
  | .right => [("align", .text "right")]
  | .center => [("align", .text "center")]
  | .none => []

/-- The cells of a row, one for each column. -/
def cells (name : String) : List Alignment → List (List Content) → List Content
  | [], _ => []
  | column :: columns, inside =>
    .element name (aligned column) (inside.head?.getD []) :: cells name columns inside.tail

/-- A row. -/
def row (name : String) (columns : List Alignment) (inside : List (List Content)) : Content :=
  .element "tr" [] (spreadAround (cells name columns inside))

/-- A table whose rows are given by the content of their cells. -/
def table (columns : List Alignment) (rows : List (List (List Content))) : Content :=
  match rows with
  | [] => .element "table" [] (spreadAround [])
  | head :: body =>
    let first := .element "thead" [] (spreadAround [row "th" columns head])
    let rest :=
      if body.isEmpty then []
      else [.element "tbody" [] (spreadAround (body.map (row "td" columns)))]
    .element "table" [] (spreadAround (first :: rest))

/-- Whether a node is an item with blank lines in it. -/
def isSpread : Node → Bool
  | .mk (.listItem spread _) _ _ => spread
  | _ => false

/-- Whether a node is an item with a box. -/
def isBoxed : Node → Bool
  | .mk (.listItem _ checked) _ _ => checked.isSome
  | _ => false

mutual

/-- What a node stands for. -/
def ofNode : Node → List Content
  | .mk kind span children =>
    let start := (span.map Span.start).getD default
    match kind with
    | .root => spread (ofNodes children)
    | .paragraph => paragraph (ofNodes children)
    | .heading level => [.element ("h" ++ toString level) [] (ofNodes children)]
    | .thematicBreak => [.element "hr" [] []]
    | .blockQuote => [.element "blockquote" [] (spreadAround (ofNodes children))]
    | .list first spread =>
      let loose := spread || children.any isSpread
      let name := if first.isSome then "ol" else "ul"
      [.element name (listProperties first (children.any isBoxed))
        (spreadAround (itemsOf loose children))]
    | .listItem spread checked => [item spread checked (ofNodes children)]
    | .codeBlock language _ value => [codeBlock language value]
    | .table columns => [table columns (rowsOf children)]
    | .tableRow | .tableCell => ofNodes children
    | .text value => if value.isEmpty then [] else [.text value]
    | .emphasis => [.element "em" [] (ofNodes children)]
    | .strong => [.element "strong" [] (ofNodes children)]
    | .strikethrough => [.element "del" [] (ofNodes children)]
    | .inlineCode value => [.element "code" [] [.text value]]
    | .lineBreak => [.element "br" [] [], lineFeed]
    | .link target title =>
      [.element "a" (destination "href" target :: titled title) (ofNodes children)]
    | .image alternative target title =>
      [.element "img"
        (destination "src" target :: ("alt", .text alternative) :: titled title) []]
    | .element _ name attributes => [.authored name attributes (ofNodes children)]
    | .expression _ code place => [.expression code place]
    | .moduleCode value => [.moduleCode value start]
    | .html _ | .definition .. | .footnoteDefinition _ | .footnoteReference _ | .matter .. => []

/-- What nodes stand for. -/
def ofNodes : List Node → List Content
  | [] => []
  | node :: nodes => ofNode node ++ ofNodes nodes

/-- The items of a list. -/
def itemsOf (loose : Bool) : List Node → List Content
  | [] => []
  | .mk (.listItem _ checked) _ children :: nodes =>
    item loose checked (ofNodes children) :: itemsOf loose nodes
  | node :: nodes => ofNode node ++ itemsOf loose nodes

/-- The rows of a table. -/
def rowsOf : List Node → List (List (List Content))
  | [] => []
  | .mk _ _ children :: nodes => cellsOf children :: rowsOf nodes

/-- The content of the cells of a row. -/
def cellsOf : List Node → List (List Content)
  | [] => []
  | .mk _ _ children :: nodes => ofNodes children :: cellsOf nodes

end

/-- Parts without the line feeds before the first and after the last that shows. -/
def trim (parts : List Content) : List Content :=
  ((parts.dropWhile isBlank).reverse.dropWhile isBlank).reverse

end Content

end PagePrelude.Page
