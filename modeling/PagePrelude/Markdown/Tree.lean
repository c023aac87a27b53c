import PagePrelude.Markdown.Piece

/-!
# Trees from pieces

Tags are matched as the pieces of a document are read from first to last. An element ends
where the construct ends that it started in, or earlier.
-/

namespace PagePrelude.Markdown

/-- What an open level of a tree is. -/
inductive Opening where
  | construct (kind : NodeKind) (construct : Construct) (start : Point)
  | element (block : Bool) (tag : Tag)
  deriving DecidableEq, Repr

namespace Opening

/-- The construct that opened a level. -/
def construct? : Opening → Option Construct
  | .construct _ made _ => some made
  | .element .. => none

/-- The tag that opened a level. -/
def tag? : Opening → Option Tag
  | .construct .. => none
  | .element _ tag => some tag

end Opening

/-- An open level of a tree with the nodes in it, newest first. -/
structure Level where
  opening : Opening
  nodes : List Node := []

/-- A tree that is being built: open levels, innermost first, and the nodes outside of them,
newest first. -/
structure Growth where
  levels : List Level := []
  nodes : List Node := []

namespace Growth

/-- A node in front of others, newest first. Text is joined with the text before it. -/
def join (node : Node) (nodes : List Node) : List Node :=
  match node, nodes with
  | .mk (.text later) (some after) _, .mk (.text value) (some before) _ :: rest =>
    .mk (.text (value ++ later)) (some ⟨before.start, after.stop⟩) [] :: rest
  | node, nodes => node :: nodes

/-- Adds a node to the innermost level. -/
def add (growth : Growth) (node : Node) : Growth :=
  match growth.levels with
  | level :: levels =>
    { growth with levels := { level with nodes := join node level.nodes } :: levels }
  | [] => { growth with nodes := join node growth.nodes }

/-- Opens a level. -/
def push (growth : Growth) (opening : Opening) : Growth :=
  { growth with levels := ⟨opening, []⟩ :: growth.levels }

/-- The element of a tag. -/
def element (block : Bool) (tag : Tag) (stop : Point) (children : List Node) : Node :=
  .mk (.element block tag.name tag.attributes) (some ⟨tag.span.start, stop⟩) children

/-- Ends the construct that was entered last. -/
def leave (growth : Growth) (stop : Point) : Except Problem Growth :=
  match growth.levels with
  | ⟨.construct kind _ start, nodes⟩ :: levels =>
    .ok ({ growth with levels }.add (.mk kind (some ⟨start, stop⟩) nodes.reverse))
  | ⟨.element _ tag, _⟩ :: levels =>
    let inside := levels.findSome? (·.opening.construct?)
    .error ⟨.notClosed tag.text tag.span.start inside, stop⟩
  | [] => .ok growth

/-- The tag that was opened last. -/
def opened? (growth : Growth) : Option Tag :=
  growth.levels.findSome? (·.opening.tag?)

/-- Ends the element that was opened last. -/
def closeTag (growth : Growth) (tag : Tag) : Except Problem Growth :=
  match growth.opened? with
  | none =>
    let start := tag.span.start
    let slash := { start with column := start.column + 1, offset := start.offset + 1 }
    .error ⟨.strayClosing, slash⟩
  | some opened =>
    match tag.excess with
    | some problem => .error problem
    | none =>
      if opened.name != tag.name then
        .error ⟨.wrongClosing tag.text opened.text opened.span.start, tag.span.start⟩
      else
        match growth.levels with
        | ⟨.element block tagged, nodes⟩ :: levels =>
          .ok ({ growth with levels }.add (element block tagged tag.span.stop nodes.reverse))
        | ⟨.construct _ construct start, _⟩ :: _ =>
          .error ⟨.closedWithin tag.text construct start, tag.span.start⟩
        | [] => .ok growth

/-- Adds a piece. -/
def addPiece (growth : Growth) : Piece → Except Problem Growth
  | .enter kind construct start => .ok (growth.push (.construct kind construct start))
  | .leave stop => growth.leave stop
  | .whole kind span => .ok (growth.add (.mk kind (some span) []))
  | .tag block tag =>
    if tag.closing then growth.closeTag tag
    else if tag.selfClosing then .ok (growth.add (element block tag tag.span.stop []))
    else .ok (growth.push (.element block tag))

/-- The nodes of a document that ends at a point. -/
def finish (growth : Growth) (stop : Point) : Except Problem (List Node) :=
  match growth.opened? with
  | some tag => .error ⟨.notClosed tag.text tag.span.start none, stop⟩
  | none => .ok growth.nodes.reverse

end Growth

/-- The nodes that pieces make, where the document ends at a point. -/
def nodesOf (stop : Point) (pieces : List Piece) : Except Problem (List Node) := do
  let growth ← pieces.foldlM Growth.addPiece {}
  growth.finish stop

end PagePrelude.Markdown
