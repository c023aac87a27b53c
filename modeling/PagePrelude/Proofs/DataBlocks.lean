import PagePrelude.Document
import PagePrelude.Proofs.Config
import PagePrelude.Proofs.Lines
import PagePrelude.Proofs.Moved.Documents

/-!
# Data blocks

A document is read in two parts: its data block, which is one node at the start, and the lines
after it. No other line makes such a node (`read_parts`, `kind_ne_matter`), and the data block
ends where its second fence does, before the ending of that line (`take?_parted`).
-/

namespace PagePrelude.Markdown

-- ---------------------------------------------------------------------------
-- Moves that leave everything where it is
-- ---------------------------------------------------------------------------

/-- A move that changes no place. -/
structure Still (move : Move) : Prop where
  lines : move.lines = 0
  bytes : move.bytes = 0

section
variable {move : Move} (hstill : Still move)
include hstill

theorem point_still (point : Point) : point.moved move = point := by
  simp [Point.moved, hstill.lines, hstill.bytes]

theorem lines_still (lines : List Line) : lines.map (Line.moved move) = lines := by
  refine List.map_id'' (fun line => ?_) lines
  have hcell (cell : Cell) : cell.moved move = cell := by simp [Cell.moved, point_still hstill]
  simp [Line.moved, point_still hstill, List.map_id'' hcell]

variable {dialect : Dialect} (h : dialect.Placeless move)
include h

/-- Blocks that lines make are blocks that such a move keeps. -/
theorem blocks_still {lines : List Line} {blocks : List Block}
    (hblocks : Outline.blocksOf dialect lines = .ok blocks) :
    blocks.map (Block.moved move) = blocks := by
  have hmoved := Outline.blocksOf_moved move h lines
  rw [lines_still hstill, hblocks] at hmoved
  exact (Except.ok.inj hmoved).symm

/-- Nodes that lines make are nodes that such a move keeps. -/
theorem nodes_still {lines : List Line} {blocks : List Block} {stop : Point} {nodes : List Node}
    (hblocks : Outline.blocksOf dialect lines = .ok blocks)
    (hnodes : nodesOfBlocks dialect stop blocks = .ok nodes) :
    nodes.map (Node.moved move) = nodes := by
  have hnone : ∀ whole ∈ ([] : List (NodeKind × Span)), ∀ value, whole.1 ≠ .text value := by simp
  have hmoved := nodesOfBlocks_behind move h hnone stop blocks
  simp only [List.map_nil, List.nil_append, point_still hstill, blocks_still hstill h hblocks,
    hnodes] at hmoved
  exact (Except.ok.inj hmoved).symm

theorem node_still {lines : List Line} {blocks : List Block} {stop : Point} {nodes : List Node}
    (hblocks : Outline.blocksOf dialect lines = .ok blocks)
    (hnodes : nodesOfBlocks dialect stop blocks = .ok nodes) {node : Node} (hnode : node ∈ nodes) :
    node.moved move = node :=
  List.map_inj_left.mp ((nodes_still hstill h hblocks hnodes).trans (List.map_id nodes).symm)
    node hnode

end

-- ---------------------------------------------------------------------------
-- The two parts of a document
-- ---------------------------------------------------------------------------

/-- The data block that lines start with, if there is one, and the lines after it. -/
def partsOf (dialect : Dialect) (lines : List Line) : List (NodeKind × Span) × List Line :=
  match if dialect.matter then Matter.take? lines else none with
  | some (found, rest) => ([(.matter found.language found.value, found.span)], rest)
  | none => ([], lines)

theorem readBlocks_eq (dialect : Dialect) (lines : List Line) :
    readBlocks dialect lines = ((partsOf dialect lines).1.map wholeBlock ++ ·) <$>
      Outline.blocksOf dialect (partsOf dialect lines).2 := by
  unfold readBlocks partsOf
  cases if dialect.matter then Matter.take? lines else none with
  | some found => rfl
  | none =>
    simp only [List.map_nil, List.nil_append]
    exact (id_map _).symm

theorem parts_ne_text (dialect : Dialect) (lines : List Line) :
    ∀ whole ∈ (partsOf dialect lines).1, ∀ value, whole.1 ≠ .text value := by
  unfold partsOf
  split <;> simp

/-- A document that can be read is its data block and the nodes of the lines after it. -/
theorem read_parts {dialect : Dialect} {text : String} {tree : Node}
    (h : dialect.Placeless {}) (hread : read dialect text = .ok tree) :
    ∃ blocks nodes, Outline.blocksOf dialect (partsOf dialect (Line.ofText text)).2 = .ok blocks ∧
      nodesOfBlocks dialect (spanOf (Line.ofText text)).stop blocks = .ok nodes ∧
      tree = .mk .root (some (spanOf (Line.ofText text)))
        ((partsOf dialect (Line.ofText text)).1.map wholeNode ++ nodes) := by
  simp only [read, readBlocks_eq, bind_ok, pure_ok] at hread
  obtain ⟨blocks, hblocks, pieces, hpieces, nodes, hnodes, rfl⟩ := hread
  cases hrest : Outline.blocksOf dialect (partsOf dialect (Line.ofText text)).2 with
  | error problem =>
    rw [hrest] at hblocks
    cases hblocks
  | ok rest =>
    rw [hrest] at hblocks
    obtain rfl := Except.ok.inj hblocks
    have hall : nodesOfBlocks dialect (spanOf (Line.ofText text)).stop
        ((partsOf dialect (Line.ofText text)).1.map wholeBlock ++ rest) = .ok nodes :=
      bind_ok.mpr ⟨pieces, hpieces, hnodes⟩
    have hbehind := nodesOfBlocks_behind {} h (parts_ne_text dialect (Line.ofText text))
      (spanOf (Line.ofText text)).stop rest
    rw [blocks_still ⟨rfl, rfl⟩ h hrest, point_still ⟨rfl, rfl⟩, hall] at hbehind
    cases hbody : nodesOfBlocks dialect (spanOf (Line.ofText text)).stop rest with
    | error problem =>
      rw [hbody] at hbehind
      cases hbehind
    | ok body =>
      rw [hbody] at hbehind
      obtain rfl := Except.ok.inj hbehind
      have hsame := nodes_still ⟨rfl, rfl⟩ h hrest hbody
      exact ⟨rest, body, rfl, hbody, by simp only [hsame]⟩

/-- No line after the start of a document makes a data block. -/
theorem kind_ne_matter {dialect : Dialect} (h : dialect.Placeless { keepsData := false })
    {lines : List Line} {blocks : List Block} {stop : Point} {nodes : List Node}
    (hblocks : Outline.blocksOf dialect lines = .ok blocks)
    (hnodes : nodesOfBlocks dialect stop blocks = .ok nodes) {node : Node} (hnode : node ∈ nodes)
    (language : MatterLanguage) (value : String) : node.kind ≠ .matter language value := by
  intro hkind
  have hsame := node_still ⟨rfl, rfl⟩ h hblocks hnodes hnode
  obtain ⟨kind, span, children⟩ := node
  obtain rfl : kind = .matter language value := hkind
  exact absurd (Node.mk.inj hsame).1 (by simp [NodeKind.moved])

namespace Matter

theorem cells_ne_nil_of_fence? {line : Line} {language : MatterLanguage}
    (h : fence? line = some language) : line.cells ≠ [] := by
  intro hcells
  rw [fence?, hcells] at h
  cases h

/-- The lines up to a fence, which any line with the same cells can stand for. -/
theorem untilFence_parted {language : MatterLanguage} {lines inside rest : List Line}
    {last : Line} (h : untilFence language lines = some (inside, last, rest)) :
    lines = inside ++ last :: rest ∧ fence? last = some language ∧
      ∀ rest', untilFence language (inside ++ last.fed :: rest') =
        some (inside, last.fed, rest') := by
  induction lines generalizing inside with
  | nil => cases h
  | cons line lines ih =>
    rw [untilFence] at h
    split at h
    · rename_i hfence
      cases h
      have hfed : fence? last.fed = some language := hfence
      exact ⟨rfl, hfence, fun rest' => by simp [untilFence, hfed]⟩
    · rename_i hfence
      obtain ⟨⟨more, last, rest⟩, hmore, hfound⟩ := Option.map_eq_some_iff.mp h
      cases hfound
      obtain ⟨rfl, hlast, hinstead⟩ := ih hmore
      exact ⟨rfl, hlast, fun rest' => by simp [untilFence, hfence, hinstead]⟩

/-- The data block of some lines ends where one of them does, whatever comes after. -/
theorem take?_parted {lines rest : List Line} {found : Matter}
    (h : take? lines = some (found, rest)) :
    ∃ before last, lines = before ++ last :: rest ∧ last.cells ≠ [] ∧
      found.span.stop = last.stop ∧
      ∀ rest', take? (before ++ last.fed :: rest') = some (found, rest') := by
  cases lines with
  | nil => cases h
  | cons first lines =>
    simp only [take?, Option.bind_eq_bind, Option.bind_eq_some_iff] at h
    obtain ⟨language, hfence, ⟨inside, last, after⟩, huntil, hfound⟩ := h
    cases hfound
    obtain ⟨rfl, hlast, hinstead⟩ := untilFence_parted huntil
    refine ⟨first :: inside, last, rfl, cells_ne_nil_of_fence? hlast, rfl, fun rest' => ?_⟩
    simp [take?, hfence, hinstead]

end Matter

end PagePrelude.Markdown
