import PagePrelude.Markdown.Tag

/-!
# Pieces of a document

A document that was read is a row of pieces: constructs are entered and left, and nodes
that hold nothing and tags stand between. A row of pieces becomes a tree when its tags
are matched.
-/

namespace PagePrelude.Markdown

/-- A piece of a document. -/
inductive Piece where
  | enter (kind : NodeKind) (construct : Construct) (start : Point)
  | leave (stop : Point)
  | whole (kind : NodeKind) (span : Span)
  /-- A tag between blocks or between words. -/
  | tag (block : Bool) (mark : Tag)
  deriving DecidableEq, Repr

namespace Piece

/-- Text as a piece. -/
def text (value : String) (span : Span) : Piece :=
  .whole (.text value) span

/-- Cells as text. -/
def ofCells (cells : List Cell) : List Piece :=
  match cells, cells.getLast? with
  | first :: _, some last => [text (textOf cells) ⟨first.start, last.stop⟩]
  | _, _ => []

/-- The words of a piece. -/
def words : Piece → String
  | whole (.text value) _ => value
  | whole (.inlineCode value) _ => value
  | whole (.image alternative _ _) _ => alternative
  | whole .lineBreak _ => "\n"
  | _ => ""

end Piece

end PagePrelude.Markdown
