import PagePrelude.Markdown.Read
import PagePrelude.Proofs.Moved.Outlines

/-!
# Documents that stand elsewhere

The pieces of moved blocks are the moved pieces, and the tree that they make is the moved
tree. Nodes in front of a document have no part in that either, unless a text stands there
that the document could go on with.
-/

namespace PagePrelude

mutual

def Node.moved (move : Move) : Node → Node
  | .mk kind span children =>
    .mk (kind.moved move) (span.map (Span.moved move)) (Node.allMoved move children)

def Node.allMoved (move : Move) : List Node → List Node
  | [] => []
  | node :: nodes => node.moved move :: Node.allMoved move nodes

end

@[simp] theorem Node.allMoved_eq_map (move : Move) (nodes : List Node) :
    Node.allMoved move nodes = nodes.map (Node.moved move) := by
  induction nodes with
  | nil => rfl
  | cons node nodes ih => rw [Node.allMoved, ih, List.map_cons]

namespace Markdown

def Opening.moved (move : Move) : Opening → Opening
  | construct kind made start => construct (kind.moved move) made (start.moved move)
  | element block tag => element block (tag.moved move)

/-- An open level with its nodes in the new place. -/
def Level.moved (move : Move) (level : Level) : Level :=
  ⟨level.opening.moved move, level.nodes.map (Node.moved move)⟩

/-- Whether no text can join the last of some nodes, newest first. -/
def Growth.NoOpenText (nodes : List Node) : Prop :=
  ∀ value span children rest, nodes ≠ .mk (.text value) span children :: rest

/-- A tree that is being built in its new place, behind nodes that were there before. -/
def Growth.moved (move : Move) (front : List Node) (growth : Growth) : Growth :=
  ⟨growth.levels.map (Level.moved move), growth.nodes.map (Node.moved move) ++ front⟩

section
variable (move : Move)

-- ---------------------------------------------------------------------------
-- Trees
-- ---------------------------------------------------------------------------

namespace Growth

theorem text_of_moved {kind : NodeKind} {value : String} (h : kind.moved move = .text value) :
    kind = .text value := by
  cases kind <;> simp only [NodeKind.moved] at h <;> (try split at h) <;> first | exact h | cases h

theorem join_moved (node : Node) (nodes : List Node) :
    join (node.moved move) (nodes.map (Node.moved move)) =
      (join node nodes).map (Node.moved move) := by
  fun_cases join node nodes with
  | case1 later after _ value before _ rest => rfl
  | case2 node nodes hjoin =>
    rw [join.eq_2, List.map_cons]
    intro later after inside value before children rest hnode hnodes
    obtain ⟨kind, span, inner⟩ := node
    obtain ⟨hkind, hspan, -⟩ := Node.mk.inj hnode
    obtain ⟨_, rfl, -⟩ := Option.map_eq_some_iff.mp hspan
    obtain ⟨⟨kind', span', inner'⟩, others, rfl, hfirst, -⟩ := List.map_eq_cons_iff.mp hnodes
    obtain ⟨hkind', hspan', -⟩ := Node.mk.inj hfirst
    obtain ⟨_, rfl, -⟩ := Option.map_eq_some_iff.mp hspan'
    obtain rfl := text_of_moved move hkind
    obtain rfl := text_of_moved move hkind'
    exact hjoin _ _ _ _ _ _ _ rfl rfl

theorem join_append {front : List Node} (hfront : NoOpenText front) (node : Node)
    (nodes : List Node) :
    join node (nodes ++ front) = join node nodes ++ front := by
  fun_cases join node nodes with
  | case1 later after _ value before _ rest => rfl
  | case2 node nodes hjoin =>
    rw [join.eq_2, List.cons_append]
    intro later after inside value before children rest hnode hnodes
    cases nodes with
    | nil => exact hfront value _ _ _ hnodes
    | cons first others =>
      obtain ⟨rfl, -⟩ := List.cons.inj hnodes
      exact hjoin _ _ _ _ _ _ _ hnode rfl

variable {front : List Node} (hfront : NoOpenText front)
include hfront

theorem add_moved (growth : Growth) (node : Node) :
    (growth.moved move front).add (node.moved move) = (growth.add node).moved move front := by
  obtain ⟨levels, nodes⟩ := growth
  cases levels with
  | nil => simp [add, moved, ← join_moved, join_append hfront]
  | cons level levels => simp [add, moved, Level.moved, join_moved]

theorem leave_moved (growth : Growth) (stop : Point) :
    (growth.moved move front).leave (stop.moved move) =
      carry (Problem.moved move) (moved move front) (growth.leave stop) := by
  obtain ⟨levels, nodes⟩ := growth
  cases levels with
  | nil => rfl
  | cons level levels =>
    obtain ⟨opening, inside⟩ := level
    cases opening with
    | construct kind made start =>
      have hadd := add_moved move hfront ⟨levels, nodes⟩
        (.mk kind (some ⟨start, stop⟩) inside.reverse)
      simp only [Node.moved, Node.allMoved_eq_map, List.map_reverse] at hadd
      exact congrArg Except.ok hadd
    | element block tag =>
      have hinside : (levels.map (Level.moved move)).findSome? (·.opening.construct?) =
          levels.findSome? (·.opening.construct?) := by
        rw [List.findSome?_map]
        congr 1
        funext level
        obtain ⟨opening, inside⟩ := level
        cases opening <;> rfl
      simp only [moved, List.map_cons, Level.moved, Opening.moved, leave, hinside]
      simp [Problem.moved, Fault.moved, Span.moved]

omit hfront in
theorem opened?_moved (growth : Growth) :
    (growth.moved move front).opened? = growth.opened?.map (Tag.moved move) := by
  obtain ⟨levels, nodes⟩ := growth
  simp only [opened?, moved, List.findSome?_map, List.map_findSome?]
  congr 1
  funext level
  obtain ⟨opening, inside⟩ := level
  cases opening <;> rfl

theorem closeTag_moved (growth : Growth) (tag : Tag) :
    (growth.moved move front).closeTag (tag.moved move) =
      carry (Problem.moved move) (moved move front) (growth.closeTag tag) := by
  simp only [closeTag, opened?_moved]
  cases growth.opened? with
  | none =>
    simp [Problem.moved, Fault.moved, Span.moved, Point.moved, Nat.add_right_comm]
  | some opened =>
    simp only [Option.map_some, Tag.excess_moved, Tag.name_moved, Tag.text_moved, Tag.span_moved]
    cases tag.excess with
    | some problem => rfl
    | none =>
      simp only [Option.map_none]
      split
      · simp [Problem.moved, Fault.moved, Span.moved]
      obtain ⟨levels, nodes⟩ := growth
      cases levels with
      | nil => rfl
      | cons level levels =>
        obtain ⟨opening, inside⟩ := level
        cases opening with
        | construct kind made start => simp [moved, Level.moved, Opening.moved, Problem.moved,
            Fault.moved, Span.moved]
        | element block tagged =>
          have hadd := add_moved move hfront ⟨levels, nodes⟩
            (element block tagged tag.span.stop inside.reverse)
          simp only [element, Node.moved, Node.allMoved_eq_map, List.map_reverse] at hadd
          exact congrArg Except.ok hadd

theorem addPiece_moved (growth : Growth) (piece : Piece) :
    (growth.moved move front).addPiece (piece.moved move) =
      carry (Problem.moved move) (moved move front) (growth.addPiece piece) := by
  cases piece with
  | enter kind made start => rfl
  | leave stop => exact leave_moved move hfront growth stop
  | whole kind span =>
    exact congrArg Except.ok (add_moved move hfront growth (.mk kind (some span) []))
  | tag block mark =>
    simp only [Piece.moved, addPiece, Tag.closing_moved, Tag.selfClosing_moved]
    split
    · exact closeTag_moved move hfront growth mark
    · split
      · exact congrArg Except.ok
          (add_moved move hfront growth (element block mark mark.span.stop []))
      · rfl

theorem foldlM_addPiece_moved (growth : Growth) (pieces : List Piece) :
    (pieces.map (Piece.moved move)).foldlM addPiece (growth.moved move front) =
      carry (Problem.moved move) (moved move front) (pieces.foldlM addPiece growth) := by
  induction pieces generalizing growth with
  | nil => rfl
  | cons piece pieces ih =>
    rw [List.map_cons, List.foldlM_cons, addPiece_moved move hfront, List.foldlM_cons]
    exact carry_bind _ _ _ _ _ ih _

omit hfront in
theorem finish_moved (growth : Growth) (stop : Point) :
    (growth.moved move front).finish (stop.moved move) =
      carry (Problem.moved move) (front.reverse ++ ·.map (Node.moved move))
        (growth.finish stop) := by
  simp only [finish, opened?_moved]
  cases growth.opened? with
  | none => simp [moved]
  | some tag => simp [Problem.moved, Fault.moved, Span.moved]

end Growth

-- ---------------------------------------------------------------------------
-- Pieces
-- ---------------------------------------------------------------------------

variable {dialect : Dialect}

theorem proseTo_moved (h : dialect.Placeless move) (definitions : List Definition) (stop : Point)
    (cells : List Cell) :
    proseTo dialect (definitions.map (Definition.moved move)) (stop.moved move)
        (cells.map (Cell.moved move)) =
      carry (Problem.moved move) (List.map (Piece.moved move))
        (proseTo dialect definitions stop cells) := by
  unfold proseTo
  split
  · exact Prose.pieces_moved move h definitions stop cells
  · exact congrArg Except.ok (Piece.ofCells_moved move cells)

mutual

theorem Block.pieces_moved (h : dialect.Placeless move) (definitions : List Definition)
    (block : Block) :
    (block.moved move).pieces dialect (definitions.map (Definition.moved move)) =
      carry (Problem.moved move) (List.map (Piece.moved move))
        (block.pieces dialect definitions) := by
  cases block with
  | leaf kind span => rfl
  | prose kind construct span cells stop =>
    simp only [Block.moved, Block.pieces, proseTo_moved move h]
    refine carry_bind _ _ _ _ _ (fun words => ?_) _
    simp [Piece.moved, Span.moved, pure, Except.pure]
  | group kind construct span blocks =>
    simp only [Block.moved, Block.pieces, piecesOf_moved h definitions blocks]
    refine carry_bind _ _ _ _ _ (fun words => ?_) _
    simp [Piece.moved, Span.moved, pure, Except.pure]
  | list marker start gap loose span items =>
    simp only [Block.moved, Block.pieces, piecesOf_moved h definitions items]
    refine carry_bind _ _ _ _ _ (fun words => ?_) _
    simp [Piece.moved, NodeKind.moved, Span.moved, pure, Except.pure]
  | definition entry => rfl
  | tag mark => rfl

theorem piecesOf_moved (h : dialect.Placeless move) (definitions : List Definition)
    (blocks : List Block) :
    piecesOf dialect (definitions.map (Definition.moved move)) (Block.allMoved move blocks) =
      carry (Problem.moved move) (List.map (Piece.moved move))
        (piecesOf dialect definitions blocks) := by
  cases blocks with
  | nil => rfl
  | cons block blocks =>
    simp only [Block.allMoved, piecesOf, Block.pieces_moved h definitions block]
    refine carry_bind _ _ _ _ _ (fun first => ?_) _
    rw [piecesOf_moved h definitions blocks]
    refine carry_bind _ _ _ _ _ (fun more => ?_) _
    simp [pure, Except.pure]

end

-- ---------------------------------------------------------------------------
-- Nodes of blocks
-- ---------------------------------------------------------------------------

/-- The nodes of blocks, where the document ends at a point. -/
def nodesOfBlocks (dialect : Dialect) (stop : Point) (blocks : List Block) :
    Except Problem (List Node) :=
  piecesOf dialect (Block.allDefinitions blocks) blocks >>= nodesOf stop

/-- The block of a node that holds nothing. -/
def wholeBlock (whole : NodeKind × Span) : Block :=
  .leaf whole.1 whole.2

/-- The node of a block that needs no further reading. -/
def wholeNode (whole : NodeKind × Span) : Node :=
  .mk whole.1 (some whole.2) []

section
variable {front : List (NodeKind × Span)}

theorem allDefinitions_behind (blocks : List Block) :
    Block.allDefinitions (front.map wholeBlock ++ blocks) = Block.allDefinitions blocks := by
  induction front with
  | nil => rfl
  | cons whole front ih =>
    rw [List.map_cons, List.cons_append, Block.allDefinitions, ih]
    rfl

theorem piecesOf_behind (definitions : List Definition) (blocks : List Block) :
    piecesOf dialect definitions (front.map wholeBlock ++ blocks) =
      carry id (front.map (fun whole => .whole whole.1 whole.2) ++ ·)
        (piecesOf dialect definitions blocks) := by
  induction front with
  | nil =>
    rw [List.map_nil, List.nil_append]
    cases piecesOf dialect definitions blocks <;> rfl
  | cons whole front ih =>
    rw [List.map_cons, List.cons_append, piecesOf, ih]
    cases piecesOf dialect definitions blocks <;> rfl

/-- Pieces that are no text make one node each. -/
theorem foldlM_whole (hfront : ∀ whole ∈ front, ∀ value, whole.1 ≠ .text value)
    (nodes : List Node) :
    (front.map fun whole => Piece.whole whole.1 whole.2).foldlM Growth.addPiece ⟨[], nodes⟩ =
      .ok ⟨[], (front.map wholeNode).reverse ++ nodes⟩ := by
  induction front generalizing nodes with
  | nil => rfl
  | cons whole front ih =>
    have hjoin : Growth.join (wholeNode whole) nodes = wholeNode whole :: nodes := by
      refine Growth.join.eq_2 _ _ fun later after inside value before children rest hnode _ => ?_
      exact hfront whole List.mem_cons_self later (Node.mk.inj hnode).1
    have hadd : Growth.addPiece ⟨[], nodes⟩ (.whole whole.1 whole.2) =
        .ok ⟨[], wholeNode whole :: nodes⟩ :=
      congrArg (fun nodes => Except.ok (Growth.mk [] nodes)) hjoin
    rw [List.map_cons, List.foldlM_cons, hadd]
    refine (ih (fun other hmem => hfront other (List.mem_cons_of_mem _ hmem)) _).trans ?_
    simp

end

/-- Blocks behind others that need no further reading make the nodes that they make by
themselves. -/
theorem nodesOfBlocks_behind (h : dialect.Placeless move) {front : List (NodeKind × Span)}
    (hfront : ∀ whole ∈ front, ∀ value, whole.1 ≠ .text value) (stop : Point)
    (blocks : List Block) :
    nodesOfBlocks dialect (stop.moved move)
        (front.map wholeBlock ++ blocks.map (Block.moved move)) =
      carry (Problem.moved move) (front.map wholeNode ++ ·.map (Node.moved move))
        (nodesOfBlocks dialect stop blocks) := by
  let back := (front.map wholeNode).reverse
  have hback : Growth.NoOpenText back := by
    intro value span children rest hnodes
    have hmem : Node.mk (.text value) span children ∈ back := by simp [hnodes]
    obtain ⟨whole, hwhole, hnode⟩ := List.mem_map.mp (List.mem_reverse.mp hmem)
    exact hfront whole hwhole value (Node.mk.inj hnode).1
  have hpieces := piecesOf_moved move h (Block.allDefinitions blocks) blocks
  rw [← Block.allDefinitions_allMoved, Block.allMoved_eq_map] at hpieces
  simp only [nodesOfBlocks, allDefinitions_behind, piecesOf_behind, hpieces]
  cases piecesOf dialect (Block.allDefinitions blocks) blocks with
  | error problem => rfl
  | ok pieces =>
    have hfold := foldlM_whole hfront []
    rw [List.append_nil] at hfold
    change nodesOf (stop.moved move) (front.map (fun whole => Piece.whole whole.1 whole.2) ++
      pieces.map (Piece.moved move)) = carry _ _ (nodesOf stop pieces)
    rw [nodesOf, List.foldlM_append, hfold, nodesOf]
    change ((pieces.map (Piece.moved move)).foldlM Growth.addPiece
      (({} : Growth).moved move back) >>= _) = _
    rw [Growth.foldlM_addPiece_moved move hback]
    refine carry_bind _ _ _ _ _ (fun growth => ?_) _
    rw [Growth.finish_moved, List.reverse_reverse]

end

end Markdown

end PagePrelude
