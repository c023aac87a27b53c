import PagePrelude.Markdown.LinkPart
import PagePrelude.Markdown.Tag

/-!
# Blocks

What the lines of a document are grouped into. The words of a block are still cells, and
the tags that stand between blocks are not matched yet.
-/

namespace PagePrelude.Markdown

/-- A part of a document that takes whole lines, or a part of one line that is markup. -/
inductive Block where
  /-- A node that needs no further reading. -/
  | leaf (kind : NodeKind) (span : Span)
  /-- Words that are still to be read, between two points of their own. -/
  | prose (kind : NodeKind) (construct : Construct) (span : Span) (cells : List Cell)
    (stop : Point)
  | group (kind : NodeKind) (construct : Construct) (span : Span) (blocks : List Block)
  /-- A list. `gap` says that its last item ends in a blank line, `loose` that an item before
  did. -/
  | list (marker : Char) (start : Option Nat) (gap loose : Bool) (span : Span)
    (items : List Block)
  | definition (entry : Definition)
  | tag (mark : Tag)
  deriving Repr, Inhabited

namespace Block

/-- Where a block stands. -/
def span : Block → Span
  | leaf _ span => span
  | prose _ _ span _ _ => span
  | group _ _ span _ => span
  | list _ _ _ _ span _ => span
  | definition entry => entry.span
  | tag mark => mark.span

/-- Whether blank lines stand between blocks, or between the last of them and a point. -/
def anyApart (stop : Point) : List Block → Bool
  | [] => false
  | [last] => last.span.stop.line + 1 < stop.line
  | first :: second :: rest =>
    first.span.stop.line + 1 < second.span.start.line || anyApart stop (second :: rest)

/-- The words between two points as a block. -/
def ofCells (kind : NodeKind) (construct : Construct) (cells : List Cell) (stop : Point) : Block :=
  .prose kind construct ⟨startOf cells stop, stop⟩ cells stop

mutual

/-- The definitions in a block. -/
def definitions : Block → List Definition
  | .definition entry => [entry]
  | .group _ _ _ blocks => allDefinitions blocks
  | .list _ _ _ _ _ items => allDefinitions items
  | _ => []

/-- The definitions in blocks, in order. -/
def allDefinitions : List Block → List Definition
  | [] => []
  | block :: blocks => block.definitions ++ allDefinitions blocks

end

end Block

end PagePrelude.Markdown
