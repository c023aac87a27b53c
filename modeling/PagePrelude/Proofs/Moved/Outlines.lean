import PagePrelude.Markdown.Outline
import PagePrelude.Proofs.Moved.Leaves

/-!
# Outlines that stand elsewhere

What lines ask of open containers is counted in columns, which a move leaves as they are.
So reading a line goes along with a move, and so does reading many.

What stands in front of a document has no part in that, as long as no list ends there that
an item could join.
-/

namespace PagePrelude.Markdown

def Frame.moved (move : Move) (frame : Frame) : Frame :=
  { frame with
    start := frame.start.moved move
    blocks := frame.blocks.map (Block.moved move) }

/-- Whether no item can join the blocks at their end. -/
def Block.NoOpenList (blocks : List Block) : Prop :=
  ∀ marker start gap loose span items,
    blocks.getLast? ≠ some (.list marker start gap loose span items)

/-- An outline in its new place, behind other blocks. -/
def Outline.moved (move : Move) (front : List Block) (outline : Outline) : Outline where
  frames := outline.frames.map (Frame.moved move)
  blocks := front ++ outline.blocks.map (Block.moved move)
  leaf := outline.leaf.moved move
  stop := outline.stop.moved move
  after := outline.after.moved move
  blank := outline.blank

section
variable (move : Move)

-- ---------------------------------------------------------------------------
-- Containers
-- ---------------------------------------------------------------------------

namespace Container

variable (dialect : Dialect) (line : Line)

theorem dropQuoteMark?_moved : dropQuoteMark? dialect (line.moved move) =
    (dropQuoteMark? dialect line).map (Line.moved move) := by
  simp only [dropQuoteMark?, Line.indent_moved, Line.trimStart_moved, Line.cells_moved]
  split
  · rfl
  cases line.trimStart.cells with
  | nil => rfl
  | cons mark more =>
    simp only [List.map_cons, Cell.char_moved, List.head?_map, Option.any_map,
      Cell.isBlank_moved, Line.drop_moved]
    split <;> rfl

/-- A container and a line that goes on with it, in the new place. -/
abbrev continuedMoved : Container × Line → Container × Line :=
  Prod.map id (Line.moved move)

theorem continue?_moved (container : Container) :
    container.continue? dialect (line.moved move) =
      (container.continue? dialect line).map (continuedMoved move) := by
  cases container with
  | quote =>
    simp only [continue?, dropQuoteMark?_moved]
    cases dropQuoteMark? dialect line <;> rfl
  | item marker number size empty =>
    simp only [continue?, Line.isBlank_moved, Line.indent_moved, Line.drop_moved]
    split
    · split <;> rfl
    · split <;> rfl
  | footnote label =>
    simp only [continue?, Line.isBlank_moved, Line.indent_moved, Line.drop_moved]
    split <;> rfl

theorem head?_eq_moved (cells : List Cell) (mark : Cell) :
    (cells.map (Cell.moved move)).head? = some (mark.moved move) ↔ cells.head? = some mark := by
  cases cells with
  | nil => simp
  | cons first rest => simp [(⟨Cell.eq_of_moved move, congrArg _⟩ :
      first.moved move = mark.moved move ↔ first = mark)]

theorem marker?_moved (interrupts : Bool) (cells : List Cell) :
    marker? interrupts (cells.map (Cell.moved move)) = marker? interrupts cells := by
  cases cells with
  | nil => rfl
  | cons first rest =>
    have hdigits : (first.moved move :: rest.map (Cell.moved move)).takeWhile (·.char.isDigit) =
        ((first :: rest).takeWhile (·.char.isDigit)).map (Cell.moved move) := by
      simp [← List.map_cons, List.takeWhile_map, Function.comp_def]
    simp only [marker?, List.map_cons, Cell.char_moved, hdigits, chars_moved]
    rw [← List.map_cons, ← List.map_drop, List.head?_map]
    generalize ((first :: rest).takeWhile (·.char.isDigit)).map Cell.char = digits
    cases ((first :: rest).drop digits.length).head? with
    | none => rfl
    | some mark => simp only [Option.map_some, Cell.char_moved, head?_eq_moved]

theorem item?_moved (interrupts : Bool) : item? dialect interrupts (line.moved move) =
    (item? dialect interrupts line).map (continuedMoved move) := by
  simp only [item?, Line.indent_moved, Line.cells_moved, ← List.map_drop, isThematicBreak_moved,
    marker?_moved, List.takeWhile_map, Function.comp_def, Cell.isBlank_moved, List.length_map,
    List.all_map, Line.drop_moved]
  split
  · rfl
  cases marker? interrupts (line.cells.drop line.indent) with
  | none => rfl
  | some found =>
    obtain ⟨marker, number, width⟩ := found
    simp only [Option.bind_eq_bind, Option.bind_some]
    split
    · split <;> rfl
    · split <;> rfl

theorem footnote?_moved : footnote? dialect (line.moved move) =
    (footnote? dialect line).map (continuedMoved move) := by
  simp only [footnote?, Line.trimStart_moved, Line.cells_moved, Line.indent_moved,
    LinkPart.label?_moved]
  split
  · rfl
  cases LinkPart.label? line.trimStart.cells with
  | none => rfl
  | some found =>
    obtain ⟨label, rest⟩ := found
    simp only [Option.map_some, Prod.map_apply, Option.bind_eq_bind, Option.bind_some,
      List.head?_map]
    cases rest.head? with
    | none => rfl
    | some colon =>
      cases label with
      | nil => rfl
      | cons mark name =>
        simp only [Option.map_some, Option.bind_some, List.map_cons, Cell.char_moved,
          List.isEmpty_map, List.all_map, Function.comp_def, Cell.isGap_moved, ← List.map_drop,
          List.takeWhile_map, Cell.isBlank_moved, List.length_map, textOf_moved, Line.drop_moved]
        split <;> rfl

theorem start?_moved (interrupts : Bool) : start? dialect interrupts (line.moved move) =
    (start? dialect interrupts line).map (continuedMoved move) := by
  simp only [start?, dropQuoteMark?_moved, item?_moved, footnote?_moved, Option.map_or]
  cases dropQuoteMark? dialect line <;> rfl

theorem startPoint_moved (container : Container) :
    startPoint (line.moved move) container = (startPoint line container).moved move := by
  cases container <;> simp [startPoint]

end Container

theorem addBlock_moved (blocks : List Block) (container : Container) (blank : Bool)
    (block : Block) :
    addBlock (blocks.map (Block.moved move)) container blank (block.moved move) =
      (addBlock blocks container blank block).map (Block.moved move) := by
  cases container with
  | item marker number size empty =>
    simp only [addBlock, List.getLast?_map]
    cases blocks.getLast? with
    | none => simp [Block.moved]
    | some last =>
      cases last with
      | list other start gap loose span items =>
        simp only [Option.map_some, Block.moved]
        split
        · simp [Block.moved, Span.moved, List.map_dropLast]
        · simp [Block.moved]
      | _ => simp [Block.moved]
  | _ => simp [addBlock]

/-- Blocks that no item can join stay as they are in front of others. -/
theorem addBlock_append {front : List Block} (hfront : Block.NoOpenList front)
    (blocks : List Block) (container : Container) (blank : Bool) (block : Block) :
    addBlock (front ++ blocks) container blank block =
      front ++ addBlock blocks container blank block := by
  cases container with
  | item marker number size empty =>
    cases hblocks : blocks.getLast? with
    | none =>
      obtain rfl := List.getLast?_eq_none_iff.mp hblocks
      simp only [addBlock, List.append_nil, List.getLast?_nil, List.nil_append]
      split
      · exact (hfront _ _ _ _ _ _ ‹_›).elim
      · rfl
    | some last =>
      have hne : blocks ≠ [] := by
        rintro rfl
        cases hblocks
      have hlast : (front ++ blocks).getLast? = some last := by
        rw [List.getLast?_append_of_ne_nil _ hne, hblocks]
      simp only [addBlock, hlast, hblocks]
      cases last with
      | list other start gap loose span items =>
        simp only
        split <;> simp [List.dropLast_append_of_ne_nil hne]
      | _ => simp
  | _ => simp [addBlock]

theorem checkBox?_moved (cells : List Cell) : checkBox? (cells.map (Cell.moved move)) =
    (checkBox? cells).map (Prod.map id (List.map (Cell.moved move))) := by
  match cells with
  | [] | [_] | [_, _] | [_, _, _] => rfl
  | opening :: mark :: closing :: gap :: rest =>
    simp only [List.map_cons, checkBox?, Cell.char_moved, Cell.isGap_moved, List.all_map,
      Function.comp_def]
    split <;> rfl

theorem takeCheckBox_moved (dialect : Dialect) (blocks : List Block) :
    takeCheckBox dialect (blocks.map (Block.moved move)) =
      Prod.map id (List.map (Block.moved move)) (takeCheckBox dialect blocks) := by
  cases blocks with
  | nil => rfl
  | cons first rest =>
    cases first with
    | prose kind construct span cells stop =>
      cases kind with
      | paragraph =>
        simp only [List.map_cons, Block.moved, NodeKind.moved, takeCheckBox,
          Prose.dropBlanks_moved, checkBox?_moved]
        cases dialect.extended with
        | false => simp [Block.moved, NodeKind.moved]
        | true =>
          cases checkBox? (cells.dropWhile Cell.isBlank) <;> simp [Block.moved, NodeKind.moved]
      | moduleCode value =>
        simp only [List.map_cons, Block.moved, NodeKind.moved]
        split <;> simp [takeCheckBox, Block.moved, NodeKind.moved, *]
      | matter language value =>
        simp only [List.map_cons, Block.moved, NodeKind.moved]
        split <;> simp [takeCheckBox, Block.moved, NodeKind.moved, *]
      | _ => rfl
    | _ => rfl

theorem Frame.block_moved (dialect : Dialect) (frame : Frame) (stop : Point) :
    (frame.moved move).block dialect (stop.moved move) =
      (frame.block dialect stop).moved move := by
  obtain ⟨container, start, blocks⟩ := frame
  cases container with
  | item marker number size empty =>
    simp [block, moved, takeCheckBox_moved, Block.anyApart_moved, Block.moved, NodeKind.moved,
      Span.moved]
  | _ => simp [block, moved, Block.moved, NodeKind.moved, Span.moved]

-- ---------------------------------------------------------------------------
-- Outlines
-- ---------------------------------------------------------------------------

namespace Outline

/-- Containers with what is left of a line, in the new place. -/
abbrev wentOnMoved : List Frame × Nat × Line → List Frame × Nat × Line :=
  Prod.map (List.map (Frame.moved move)) (Prod.map id (Line.moved move))

theorem goOn_moved (dialect : Dialect) (line : Line) (frames : List Frame) :
    goOn dialect (line.moved move) (frames.map (Frame.moved move)) =
      wentOnMoved move (goOn dialect line frames) := by
  induction frames generalizing line with
  | nil => rfl
  | cons frame frames ih =>
    simp only [List.map_cons, goOn, show (frame.moved move).container = frame.container from rfl,
      Container.continue?_moved]
    cases frame.container.continue? dialect line with
    | none => simp
    | some found =>
      obtain ⟨container, rest⟩ := found
      simp only [Option.map_some, Prod.map_apply, ih]
      rfl

theorem lazyFault?_moved {dialect : Dialect} (h : dialect.Placeless move) (leaf : Leaf) :
    lazyFault? dialect (leaf.moved move) = (lazyFault? dialect leaf).map (Fault.moved move) := by
  cases leaf with
  | markup held lines =>
    simp only [Leaf.moved, lazyFault?, Leaf.scanMarkup_moved move h]
    rcases Leaf.scanMarkup dialect lines with (_ | (_ | fault) | problem) | blocks <;> rfl
  | _ => rfl

variable {front : List Block}

section
variable (outline : Outline)

@[simp] theorem frames_moved :
    (outline.moved move front).frames = outline.frames.map (Frame.moved move) := rfl
@[simp] theorem blocks_moved :
    (outline.moved move front).blocks = front ++ outline.blocks.map (Block.moved move) := rfl
@[simp] theorem leaf_moved : (outline.moved move front).leaf = outline.leaf.moved move := rfl
@[simp] theorem stop_moved : (outline.moved move front).stop = outline.stop.moved move := rfl
@[simp] theorem after_moved : (outline.moved move front).after = outline.after.moved move := rfl

theorem addBlocks_moved (blocks : List Block) :
    (outline.moved move front).addBlocks (blocks.map (Block.moved move)) =
      (outline.addBlocks blocks).moved move front := by
  obtain ⟨frames, _, _, _, _, _⟩ := outline
  cases frames <;> simp [addBlocks, moved, Frame.moved]

end

variable {dialect : Dialect} (h : dialect.Placeless move) (hfront : Block.NoOpenList front)
include hfront

theorem leave_moved (stop : Point) (outline : Outline) :
    (outline.moved move front).leave dialect (stop.moved move) =
      (outline.leave dialect stop).moved move front := by
  obtain ⟨frames, blocks, leaf, last, after, blank⟩ := outline
  match frames with
  | [] => rfl
  | [frame] =>
    have hadd := addBlock_moved move blocks frame.container blank (frame.block dialect stop)
    rw [← Frame.block_moved] at hadd
    simp only [leave, moved, List.map_cons, List.map_nil, addBlock_append hfront]
    exact congrArg (fun blocks => Outline.mk [] (front ++ blocks) _ _ _ _) hadd
  | frame :: outer :: frames =>
    have hadd := addBlock_moved move outer.blocks frame.container blank (frame.block dialect stop)
    rw [← Frame.block_moved] at hadd
    simp only [leave, moved, List.map_cons]
    exact congrArg (fun blocks => Outline.mk ({ outer.moved move with blocks } :: _) _ _ _ _ _)
      hadd

theorem leaveMany_moved (stop : Point) (count : Nat) (outline : Outline) :
    leaveMany dialect (stop.moved move) count (outline.moved move front) =
      (leaveMany dialect stop count outline).moved move front := by
  induction count generalizing outline with
  | zero => rfl
  | succ count ih => rw [leaveMany, leave_moved move hfront, ih, leaveMany]

include h

theorem close_moved (count : Nat) (whole : Bool) (outline : Outline) :
    (outline.moved move front).close dialect count whole =
      carry (Problem.moved move) (moved move front) (outline.close dialect count whole) := by
  have hpick (c : Bool) : (if c then (outline.moved move front).after
        else (outline.moved move front).stop) =
      (if c then outline.after else outline.stop).moved move := by
    cases c <;> rfl
  have hleaf := Leaf.close_moved move h (if whole then outline.after else outline.stop) outline.leaf
  have hopen := Leaf.isOpenEnded_moved move outline.leaf
  rw [close, hpick, hpick, leaf_moved, hleaf, hopen]
  refine carry_bind _ _ _ _ _ (fun blocks => ?_) _
  rw [addBlocks_moved]
  exact congrArg Except.ok
    (leaveMany_moved move hfront _ count { outline.addBlocks blocks with leaf := .idle })

theorem openAll_moved (fuel left : Nat) (outline : Outline) (line : Line) :
    openAll dialect fuel (outline.moved move front) left (line.moved move) =
      carry (Problem.moved move) (Prod.map (moved move front) (Prod.map id (Line.moved move)))
        (openAll dialect fuel outline left line) := by
  induction fuel generalizing outline left line with
  | zero => rfl
  | succ fuel ih =>
    simp only [openAll, leaf_moved, Leaf.isConcrete_moved, Leaf.isParagraph_moved,
      Container.start?_moved]
    split
    · rfl
    cases Container.start? dialect (left = 0 && outline.leaf.isParagraph) line with
    | none => rfl
    | some found =>
      obtain ⟨container, rest⟩ := found
      simp only [Option.map_some, Prod.map_apply, close_moved move h hfront,
        Container.startPoint_moved, id_eq]
      exact carry_bind _ _ _ _ _ (fun closed => ih 0 { closed with
        frames := { container, start := container.startPoint line } :: closed.frames } rest) _

theorem readRest_moved (left : Nat) (outline : Outline) (line : Line) :
    (outline.moved move front).readRest dialect left (line.moved move) =
      carry (Problem.moved move) (moved move front) (outline.readRest dialect left line) := by
  have hlast (closed : Outline) :
      (do
        let found ← (closed.moved move front).leaf.read dialect (line.moved move)
        return { (closed.moved move front).addBlocks found.1 with leaf := found.2 }) =
      carry (Problem.moved move) (moved move front) (do
        let found ← closed.leaf.read dialect line
        return { closed.addBlocks found.1 with leaf := found.2 }) := by
    rw [leaf_moved, Leaf.read_moved move h]
    refine carry_bind _ _ _ _ _ (fun found => ?_) _
    simp only [Prod.map_fst, addBlocks_moved]
    rfl
  simp only [readRest, leaf_moved, Leaf.keepsLazily_moved move h, Leaf.addLine_moved,
    lazyFault?_moved move h, Line.start_moved]
  split
  · rfl
  split
  · cases lazyFault? dialect outline.leaf with
    | some fault => rfl
    | none =>
      simp only [Option.map_none, close_moved move h hfront]
      exact carry_bind _ _ _ _ _ hlast _
  · exact hlast outline

theorem read_moved (outline : Outline) (line : Line) :
    (outline.moved move front).read dialect (line.moved move) =
      carry (Problem.moved move) (moved move front) (outline.read dialect line) := by
  simp only [read, frames_moved, ← List.map_reverse, goOn_moved, Line.cells_moved,
    List.length_map]
  generalize goOn dialect line outline.frames.reverse = found
  obtain ⟨frames, left, rest⟩ := found
  have hframes :
      { outline.moved move front with frames := (frames.map (Frame.moved move)).reverse } =
        ({ outline with frames := frames.reverse } : Outline).moved move front := by
    simp [moved]
  simp only [Prod.map_apply, id_eq]
  rw [hframes, openAll_moved move h hfront]
  refine carry_bind _ _ _ _ _ (fun opened => ?_) _
  simp only [Prod.map_fst, Prod.map_snd, id_eq, readRest_moved move h hfront, Line.isBlank_moved]
  refine carry_bind _ _ _ _ _ (fun outline => ?_) _
  rfl

theorem foldlM_read_moved (outline : Outline) (lines : List Line) :
    (lines.map (Line.moved move)).foldlM (read dialect) (outline.moved move front) =
      carry (Problem.moved move) (moved move front) (lines.foldlM (read dialect) outline) := by
  induction lines generalizing outline with
  | nil => rfl
  | cons line lines ih =>
    rw [List.map_cons, List.foldlM_cons, read_moved move h hfront, List.foldlM_cons]
    exact carry_bind _ _ _ _ _ ih _

theorem finish_moved (outline : Outline) :
    (outline.moved move front).finish dialect =
      carry (Problem.moved move) (front ++ ·.map (Block.moved move)) (outline.finish dialect) := by
  have hsame : (outline.stop.moved move != outline.after.moved move) =
      (outline.stop != outline.after) :=
    Bool.eq_iff_iff.mpr (by simp)
  have hgone := goOn_moved move dialect
    { cells := [], stop := outline.after, ending := "", after := outline.after }
    outline.frames.reverse
  simp only [Line.moved, List.map_nil, List.map_reverse] at hgone
  have hclose : (do return (← carry (Problem.moved move) (moved move front)
        (outline.close dialect outline.frames.length true)).blocks) =
      carry (Problem.moved move) (front ++ ·.map (Block.moved move))
        (do return (← outline.close dialect outline.frames.length true).blocks) := by
    refine carry_bind _ _ _ _ _ (fun closed => ?_) _
    rfl
  simp only [finish, frames_moved, after_moved, stop_moved, leaf_moved, hsame, hgone,
    Prod.map_snd, Prod.map_fst, id_eq, lazyFault?_moved move h, close_moved move h hfront,
    List.length_map]
  split
  · cases lazyFault? dialect outline.leaf with
    | some fault => rfl
    | none => exact hclose
  · exact hclose

-- ---------------------------------------------------------------------------
-- From one block to the next
-- ---------------------------------------------------------------------------

omit h hfront

/-- An outline in which nothing is open. -/
structure AtRest (outline : Outline) : Prop where
  frames : outline.frames = []
  leaf : outline.leaf = .idle

/-- An outline with other words on its last line. -/
def lastLine (stop after : Point) (blank : Bool) (outline : Outline) : Outline :=
  { outline with stop, after, blank }

section
variable {outline : Outline} (stop after : Point) (blank : Bool)

theorem addBlocks_nil (outline : Outline) : outline.addBlocks [] = outline := by
  obtain ⟨frames, _, _, _, _, _⟩ := outline
  cases frames <;> simp [addBlocks]

theorem close_idle (hleaf : outline.leaf = .idle) (whole : Bool) :
    outline.close dialect 0 whole = .ok outline := by
  obtain ⟨frames, blocks, leaf, _, _, _⟩ := outline
  simp only at hleaf
  subst hleaf
  simp [close, Leaf.close, Leaf.idle, Leaf.finish, Leaf.paragraph, addBlocks_nil, leaveMany]

theorem finish_at_rest (hrest : outline.AtRest) :
    outline.finish dialect = .ok outline.blocks := by
  simp only [finish, hrest.frames, List.reverse_nil, List.length_nil, goOn,
    close_idle hrest.leaf]
  simp

theorem openAll_idle (hleaf : outline.leaf = .idle) (fuel : Nat) (line : Line) :
    openAll dialect fuel (outline.lastLine stop after blank) 0 line =
      carry id (Prod.map (lastLine stop after blank) id) (openAll dialect fuel outline 0 line) := by
  induction fuel generalizing outline line with
  | zero => rfl
  | succ fuel ih =>
    have hlast : (outline.lastLine stop after blank).leaf = outline.leaf := rfl
    simp only [openAll, close_idle hleaf, close_idle (hlast.trans hleaf), hlast]
    split
    · rfl
    generalize Container.start? dialect _ line = started
    cases started with
    | none => rfl
    | some found =>
      let frame : Frame := ⟨found.1, found.1.startPoint line, []⟩
      have hframe : ({ outline with frames := frame :: outline.frames } : Outline).leaf = .idle :=
        hleaf
      exact ih hframe found.2

theorem openAll_left {fuel left : Nat} {line rest : Line} {opened : Outline}
    (hopen : openAll dialect fuel outline 0 line = .ok (opened, left, rest)) : left = 0 := by
  induction fuel generalizing outline line with
  | zero =>
    cases hopen
    rfl
  | succ fuel ih =>
    rw [openAll] at hopen
    split at hopen
    · cases hopen
      rfl
    · split at hopen
      · cases hopen
        rfl
      · cases hclose : outline.close dialect 0 true with
        | error problem =>
          rw [hclose] at hopen
          cases hopen
        | ok closed =>
          rw [hclose] at hopen
          exact ih hopen

theorem readRest_lastLine (line : Line) :
    (outline.lastLine stop after blank).readRest dialect 0 line =
      carry id (lastLine stop after blank) (outline.readRest dialect 0 line) := by
  have hadd (blocks : List Block) : (outline.lastLine stop after blank).addBlocks blocks =
      (outline.addBlocks blocks).lastLine stop after blank := by
    obtain ⟨frames, _, _, _, _, _⟩ := outline
    cases frames <;> rfl
  simp only [readRest, Nat.lt_irrefl, gt_iff_lt, decide_false, Bool.false_and, if_false,
    Bool.false_eq_true, pure_bind, hadd]
  change (do
      let found ← outline.leaf.read dialect line
      return { (outline.addBlocks found.1).lastLine stop after blank with leaf := found.2 }) = _
  cases outline.leaf.read dialect line <;> rfl

/-- Where nothing is open, reading a line does not depend on the line before. -/
theorem read_at_rest {other : Outline} (hrest : outline.AtRest) (hother : other.AtRest)
    (hblocks : outline.blocks = other.blocks) (line : Line) :
    outline.read dialect line = other.read dialect line := by
  obtain ⟨frames, blocks, leaf, last, next, gap⟩ := outline
  obtain ⟨frames', blocks', leaf', last', next', gap'⟩ := other
  obtain ⟨rfl, rfl⟩ := hrest
  obtain ⟨rfl, rfl⟩ := hother
  obtain rfl : blocks = blocks' := hblocks
  let start : Outline := ⟨[], blocks, .idle, last', next', gap'⟩
  have hopen : openAll dialect (line.cells.length + 1) (start.lastLine last next gap) 0 line =
      carry id (Prod.map (lastLine last next gap) id)
        (openAll dialect (line.cells.length + 1) start 0 line) :=
    openAll_idle last next gap rfl _ line
  simp only [start, lastLine] at hopen
  simp only [read, List.reverse_nil, goOn, hopen]
  cases hstart : openAll dialect (line.cells.length + 1) start 0 line with
  | error problem => rfl
  | ok found =>
    obtain ⟨opened, left, rest⟩ := found
    obtain rfl := openAll_left hstart
    change (do
        let outline ← (opened.lastLine last next gap).readRest dialect 0 rest
        return lastLine line.stop line.after rest.isBlank outline) =
      (do
        let outline ← opened.readRest dialect 0 rest
        return lastLine line.stop line.after rest.isBlank outline)
    rw [readRest_lastLine]
    cases opened.readRest dialect 0 rest <;> rfl

end

/-- Lines behind other blocks make the blocks that they make by themselves. -/
theorem blocks_moved_behind (h : dialect.Placeless move) (hfront : Block.NoOpenList front)
    {outline : Outline} (hrest : outline.AtRest) (hblocks : outline.blocks = front)
    (lines : List Line) :
    ((lines.map (Line.moved move)).foldlM (read dialect) outline >>= finish dialect) =
      carry (Problem.moved move) (front ++ ·.map (Block.moved move)) (blocksOf dialect lines) := by
  let start : Outline := ({} : Outline).moved move front
  have hstart : start.AtRest := ⟨rfl, rfl⟩
  have hsame : outline.blocks = start.blocks := by simp [start, hblocks]
  cases lines with
  | nil =>
    change outline.finish dialect = carry _ _ (finish dialect {})
    rw [finish_at_rest hrest, finish_at_rest ⟨rfl, rfl⟩, hblocks]
    simp
  | cons line lines =>
    rw [List.map_cons, List.foldlM_cons, read_at_rest hrest hstart hsame, ← List.foldlM_cons,
      ← List.map_cons, foldlM_read_moved move h hfront, blocksOf]
    exact carry_bind _ _ _ _ _ (finish_moved move h hfront) _

theorem blocksOf_moved (h : dialect.Placeless move) (lines : List Line) :
    blocksOf dialect (lines.map (Line.moved move)) =
      carry (Problem.moved move) (List.map (Block.moved move)) (blocksOf dialect lines) :=
  blocks_moved_behind move h (by simp [Block.NoOpenList]) ⟨rfl, rfl⟩ rfl lines

end Outline

end

end PagePrelude.Markdown
