import PagePrelude.Markdown.Matter
import PagePrelude.Markdown.Outline
import PagePrelude.Markdown.Prose
import PagePrelude.Markdown.Tree

/-!
# Reading documents

The lines of a document are grouped into blocks, the words of the blocks become pieces,
and the pieces become a tree. Each of the three can find a problem, in this order.
-/

namespace PagePrelude.Markdown

/-- The pieces of words. Nothing asks for more than the text of words without markup. -/
def proseTo (dialect : Dialect) (definitions : List Definition) (stop : Point)
    (cells : List Cell) : Except Problem (List Piece) :=
  if dialect.markup then Prose.pieces dialect definitions stop cells
  else .ok (Piece.ofCells cells)

mutual

/-- The pieces of a block. -/
def Block.pieces (dialect : Dialect) (definitions : List Definition) :
    Block → Except Problem (List Piece)
  | .leaf kind span => .ok [.whole kind span]
  | .prose kind construct span cells stop => do
    let words ← proseTo dialect definitions stop cells
    return .enter kind construct span.start :: words ++ [.leave span.stop]
  | .group kind construct span blocks => do
    let inside ← piecesOf dialect definitions blocks
    return .enter kind construct span.start :: inside ++ [.leave span.stop]
  | .list _ start _ loose span items => do
    let inside ← piecesOf dialect definitions items
    return .enter (.list start loose) (.list start.isSome) span.start :: inside ++
      [.leave span.stop]
  | .definition entry =>
    .ok [.whole (.definition entry.label entry.destination entry.title) entry.span]
  | .tag mark => .ok [.tag true mark]

/-- The pieces of blocks. -/
def piecesOf (dialect : Dialect) (definitions : List Definition) :
    List Block → Except Problem (List Piece)
  | [] => .ok []
  | block :: blocks => do
    let first ← block.pieces dialect definitions
    let more ← piecesOf dialect definitions blocks
    return first ++ more

end

/-- The blocks of a document. -/
def readBlocks (dialect : Dialect) (lines : List Line) : Except Problem (List Block) :=
  match if dialect.matter then Matter.take? lines else none with
  | some (matter, rest) => (matter.block :: ·) <$> Outline.blocksOf dialect rest
  | none => Outline.blocksOf dialect lines

/-- Where lines start, and where the text ends. -/
def spanOf (lines : List Line) : Span :=
  match lines, lines.getLast? with
  | first :: _, some last => ⟨first.start, last.after⟩
  | _, _ => ⟨⟨1, 1, 0⟩, ⟨1, 1, 0⟩⟩

/-- Reads a document. -/
def read (dialect : Dialect) (text : String) : Except Problem Node := do
  let lines := Line.ofText text
  let span := spanOf lines
  let blocks ← readBlocks dialect lines
  let pieces ← piecesOf dialect (Block.allDefinitions blocks) blocks
  let nodes ← nodesOf span.stop pieces
  return .mk .root (some span) nodes

end PagePrelude.Markdown
