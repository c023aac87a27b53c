/-!
# Document trees

A document is a tree of nodes. A node says what it is by its kind, where it stands in
the source, if it comes from one, and what it holds.
-/

namespace PagePrelude

/-- A point of a source: line and column count from one, the offset counts bytes from zero. -/
structure Point where
  line : Nat
  column : Nat
  offset : Nat
  deriving DecidableEq, Repr, Inhabited

/-- The point some bytes into a text that starts at a point. -/
def Point.within (start : Point) (offset : Nat) : List Char → Point
  | [] => start
  | c :: rest =>
    let size := c.utf8Size
    if offset < size then start
    else
      let after := start.offset + size
      let isBreak := c = '\n' || (c = '\r' && rest.head? != some '\n')
      let next : Point :=
        if isBreak then ⟨start.line + 1, 1, after⟩ else ⟨start.line, start.column + size, after⟩
      next.within (offset - size) rest

/-- A stretch of a source. -/
structure Span where
  start : Point
  stop : Point
  deriving DecidableEq, Repr, Inhabited

/-- How the cells of a column are aligned. -/
inductive Alignment where
  | left
  | right
  | center
  | none
  deriving DecidableEq, Repr

/-- The language of the data block at the start of a document. -/
inductive MatterLanguage where
  | yaml
  | toml
  deriving DecidableEq, Repr

/-- The value of an attribute of an element. -/
inductive AttributeValue where
  | absent
  | literal (text : String)
  /-- Module code, with the place of its first character. -/
  | expression (code : String) (start : Point)
  deriving DecidableEq, Repr

/-- An attribute of an element. -/
inductive Attribute where
  | property (name : String) (value : AttributeValue)
  /-- Attributes that module code gives, with the place of its first character. -/
  | spread (code : String) (start : Point)
  deriving DecidableEq, Repr

/-- What a node is. -/
inductive NodeKind where
  | root
  | paragraph
  | heading (level : Nat)
  | thematicBreak
  | blockQuote
  | list (start : Option Nat) (spread : Bool)
  | listItem (spread : Bool) (checked : Option Bool)
  | codeBlock (language info : Option String) (value : String)
  | html (value : String)
  | definition (label destination : String) (title : Option String)
  | footnoteDefinition (label : String)
  | table (columns : List Alignment)
  | tableRow
  | tableCell
  | text (value : String)
  | emphasis
  | strong
  | strikethrough
  | inlineCode (value : String)
  | lineBreak
  | link (destination : String) (title : Option String)
  | image (alternative destination : String) (title : Option String)
  | footnoteReference (label : String)
  /-- An element of markup, or a fragment if it has no name. -/
  | element (block : Bool) (name : Option String) (attributes : List Attribute)
  /-- Module code in braces, with the place of its first character. -/
  | expression (block : Bool) (code : String) (start : Point)
  | moduleCode (value : String)
  | matter (language : MatterLanguage) (value : String)
  deriving DecidableEq, Repr, Inhabited

namespace NodeKind

/-- Whether nodes of a kind can hold others. -/
def isParent : NodeKind → Bool
  | thematicBreak | codeBlock .. | html _ | definition .. | text _ | inlineCode _ | lineBreak
  | image .. | footnoteReference _ | expression .. | moduleCode _ | matter .. => false
  | _ => true

end NodeKind

/-- A node of a document. -/
inductive Node where
  | mk (kind : NodeKind) (span : Option Span) (children : List Node)
  deriving Repr, Inhabited

namespace Node

/-- What a node is. -/
def kind : Node → NodeKind
  | mk kind _ _ => kind

/-- Where a node stands in its source. -/
def span : Node → Option Span
  | mk _ span _ => span

/-- What a node holds. -/
def children : Node → List Node
  | mk _ _ children => children

/-- A node with other children. A node that can hold none is left alone. -/
def withChildren (node : Node) (children : List Node) : Node :=
  if node.kind.isParent then .mk node.kind node.span children else node

/-- Module code that comes from no source. -/
def ofCode (code : String) : Node :=
  .mk (.moduleCode code) none []

/-- The module code that a node is. -/
def code? : Node → Option String
  | mk (.moduleCode value) _ _ => some value
  | _ => none

/-- The module code at the top level of a tree, in order. -/
def topCode (tree : Node) : List String :=
  tree.children.filterMap code?

end Node

end PagePrelude
