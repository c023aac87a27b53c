import PagePrelude.Markdown.Leaf
import PagePrelude.Proofs.Moved.Words

/-!
# Blocks that stand elsewhere

What a line makes of an open block goes along with the line and the block: the block that it
leaves open, the blocks that it finishes, and the lines that are read again.
-/

namespace PagePrelude.Markdown

mutual

def Block.moved (move : Move) : Block → Block
  | .leaf kind span => .leaf (kind.moved move) (span.moved move)
  | .prose kind construct span cells stop =>
    .prose (kind.moved move) construct (span.moved move) (cells.map (Cell.moved move))
      (stop.moved move)
  | .group kind construct span blocks =>
    .group (kind.moved move) construct (span.moved move) (Block.allMoved move blocks)
  | .list marker start gap loose span items =>
    .list marker start gap loose (span.moved move) (Block.allMoved move items)
  | .definition entry => .definition (entry.moved move)
  | .tag mark => .tag (mark.moved move)

def Block.allMoved (move : Move) : List Block → List Block
  | [] => []
  | block :: blocks => block.moved move :: Block.allMoved move blocks

end

def Leaf.moved (move : Move) : Leaf → Leaf
  | .prose lines => .prose (lines.map (Line.moved move))
  | .fenced fence indent start lines =>
    .fenced (fence.moved move) indent (start.moved move) (lines.map (Line.moved move))
  | .indented start lines blanks =>
    .indented (start.moved move) (lines.map (Line.moved move)) (blanks.map (Line.moved move))
  | .html ends start lines => .html ends (start.moved move) (lines.map (Line.moved move))
  | .markup held lines => .markup (held.map (Line.moved move)) (lines.map (Line.moved move))
  | .code last before => .code (last.moved move) (before.map (Line.moved move))
  | .table columns span rows =>
    .table columns (span.moved move) (rows.map (Block.moved move))

/-- What a line makes of the open block, in the new place. -/
def Leaf.Step.moved (move : Move) (step : Step) : Step :=
  ⟨step.blocks.map (Block.moved move), step.leaf.moved move, step.again.map (Line.moved move)⟩

section
variable (move : Move)

-- ---------------------------------------------------------------------------
-- Blocks
-- ---------------------------------------------------------------------------

namespace Block

@[simp] theorem allMoved_eq_map (blocks : List Block) :
    allMoved move blocks = blocks.map (moved move) := by
  induction blocks with
  | nil => rfl
  | cons block blocks ih => rw [allMoved, ih, List.map_cons]

@[simp] theorem span_moved (block : Block) : (block.moved move).span = block.span.moved move := by
  cases block <;> rfl

theorem anyApart_moved (stop : Point) (blocks : List Block) :
    anyApart (stop.moved move) (blocks.map (moved move)) = anyApart stop blocks := by
  have happart (before after : Nat) :
      decide (before + move.lines + 1 < after + move.lines) = decide (before + 1 < after) :=
    decide_eq_decide.mpr (by omega)
  fun_induction anyApart stop blocks with
  | case1 => rfl
  | case2 last =>
    simp only [List.map_cons, List.map_nil, anyApart, span_moved, Span.moved, line_moved, happart]
  | case3 first second rest ih =>
    rw [List.map_cons] at ih
    simp only [List.map_cons, anyApart, span_moved, Span.moved, ih, line_moved, happart]

theorem ofCells_moved (kind : NodeKind) (construct : Construct) (cells : List Cell)
    (stop : Point) :
    ofCells (kind.moved move) construct (cells.map (Cell.moved move)) (stop.moved move) =
      (ofCells kind construct cells stop).moved move := by
  simp [ofCells, moved, Span.moved]

mutual

theorem definitions_moved (block : Block) :
    (block.moved move).definitions = block.definitions.map (Definition.moved move) := by
  cases block with
  | group kind construct span blocks =>
    exact allDefinitions_allMoved blocks
  | list marker start gap loose span items =>
    exact allDefinitions_allMoved items
  | _ => simp [moved, definitions]

theorem allDefinitions_allMoved (blocks : List Block) :
    allDefinitions (allMoved move blocks) =
      (allDefinitions blocks).map (Definition.moved move) := by
  cases blocks with
  | nil => rfl
  | cons block blocks =>
    rw [allMoved, allDefinitions, allDefinitions, List.map_append, definitions_moved block,
      allDefinitions_allMoved blocks]

end

end Block

theorem Table.row_moved (line : Line) :
    Table.row (line.moved move) = (Table.row line).moved move := by
  simp only [row, Line.cells_moved, contents_moved, List.map_map, Block.moved, Line.span_moved,
    Block.allMoved_eq_map, NodeKind.moved]
  congr 1
  refine List.map_congr_left fun cells _ => ?_
  simp only [Function.comp_apply, Line.stop_moved, lastStop_moved]
  exact Block.ofCells_moved move .tableCell .tableCell _ _

namespace Leaf

-- ---------------------------------------------------------------------------
-- Paragraphs
-- ---------------------------------------------------------------------------

theorem textOfLines_moved (lines : List Line) :
    textOfLines (lines.map (Line.moved move)) = textOfLines lines := by
  fun_induction textOfLines lines <;> simp_all [textOfLines]

theorem proseCells_moved {lines : List Line} (h : lines ≠ []) :
    proseCells (lines.map (Line.moved move)) =
      Prod.map (List.map (Cell.moved move)) (Point.moved move) (proseCells lines) := by
  cases lines with
  | nil => exact absurd rfl h
  | cons last before => simp [proseCells, ← List.map_reverse]

theorem proseBlocks_moved (kind : NodeKind) (hkind : kind.moved move = kind)
    (construct : Construct) (stop : Point) {lines : List Line} (h : lines ≠ []) :
    proseBlocks kind construct (stop.moved move) (lines.map (Line.moved move)) =
      Prod.map (List.map (Block.moved move)) (List.map (Block.moved move))
        (proseBlocks kind construct stop lines) := by
  simp only [proseBlocks, proseCells_moved move h, List.length_map, Prod.map_fst, Prod.map_snd,
    Definition.takeAll_moved, List.isEmpty_map]
  refine Prod.ext (by simp [Block.moved]) ?_
  simp only [Prod.map_snd]
  split
  · rfl
  · simp [Block.moved, Span.moved, hkind]

theorem paragraph_moved (held : List Line) :
    paragraph (held.map (Line.moved move)) = (paragraph held).map (Block.moved move) := by
  cases held with
  | nil => rfl
  | cons last before =>
    have h := proseBlocks_moved move .paragraph rfl .paragraph last.stop
      (List.cons_ne_nil last before)
    rw [List.map_cons] at h
    simp [paragraph, h]

theorem underlined_moved (level : Nat) {lines : List Line} (h : lines ≠ []) (line : Line) :
    underlined level (lines.map (Line.moved move)) (line.moved move) =
      (underlined level lines line).moved move := by
  have hblocks := proseBlocks_moved move (.heading level) rfl (.heading true) line.stop h
  simp only [underlined, Line.stop_moved, hblocks]
  generalize proseBlocks (.heading level) (.heading true) line.stop lines = blocks
  obtain ⟨definitions, words⟩ := blocks
  cases words <;> simp [Step.moved, Leaf.moved, idle]

-- ---------------------------------------------------------------------------
-- Code and HTML
-- ---------------------------------------------------------------------------

theorem fencedValue_moved (indent : Nat) (lines : List Line) :
    fencedValue indent (lines.map (Line.moved move)) = fencedValue indent lines := by
  have hlines : (lines.map (Line.moved move)).map (fun line => line.drop (min indent line.indent)) =
      (lines.map fun line => line.drop (min indent line.indent)).map (Line.moved move) := by
    simp
  rw [fencedValue, hlines, textOfLines_moved, fencedValue]

theorem fenceInfo_moved (cells : List Cell) :
    fenceInfo (cells.map (Cell.moved move)) = fenceInfo cells := by
  have hrest := Prose.dropBlanks_moved move
  simp only [fenceInfo, Table.trim_moved, List.takeWhile_map, Function.comp_def,
    Cell.isBlank_moved, List.length_map, ← List.map_drop, hrest, List.isEmpty_map,
    plainText_moved]

theorem fencedBlock_moved (fence : Fence) (indent : Nat) (start stop : Point)
    (lines : List Line) :
    fencedBlock (fence.moved move) indent (start.moved move) (stop.moved move)
        (lines.map (Line.moved move)) =
      (fencedBlock fence indent start stop lines).moved move := by
  simp only [fencedBlock, Fence.moved, fenceInfo_moved, ← List.map_reverse, fencedValue_moved]
  rfl

theorem indentedBlock_moved (start : Point) (lines : List Line) :
    indentedBlock (start.moved move) (lines.map (Line.moved move)) =
      (indentedBlock start lines).map (Block.moved move) := by
  cases lines with
  | nil => rfl
  | cons last before =>
    simp only [indentedBlock, List.map_cons]
    rw [← List.map_cons, ← List.map_reverse, textOfLines_moved]
    rfl

theorem htmlStop_moved (start : Point) (lines : List Line) :
    (lines.map (Line.moved move)).head?.elim (start.moved move) Line.stop =
      (lines.head?.elim start Line.stop).moved move := by
  cases lines <;> rfl

theorem htmlBlock_moved (start stop : Point) (lines : List Line) :
    htmlBlock (start.moved move) (stop.moved move) (lines.map (Line.moved move)) =
      (htmlBlock start stop lines).moved move := by
  rw [htmlBlock, ← List.map_reverse, textOfLines_moved]
  rfl

-- ---------------------------------------------------------------------------
-- Markup
-- ---------------------------------------------------------------------------

variable {dialect : Dialect}

theorem steady_markupBlocks (h : dialect.Placeless move) (fuel : Nat) :
    Scanner.Steady move (List.map (Block.moved move)) (markupBlocks dialect fuel)
      (markupBlocks dialect fuel) := by
  induction fuel with
  | zero => exact Scanner.steady_throw rfl
  | succ fuel ih =>
    refine (Scanner.steady_takeWhile move (Cell.isBlank_moved move)).bind fun _ => ?_
    refine (Scanner.steady_peek? move).bind fun found => ?_
    cases found with
    | none => exact Scanner.steady_pure []
    | some cell =>
      simp only [Option.map_some, Cell.isEnding_moved, Cell.char_moved]
      refine Scanner.Steady.ite (fun _ => Scanner.steady_pure []) fun _ =>
        Scanner.Steady.ite (fun _ => ?_) fun _ =>
          Scanner.Steady.ite (fun _ => ?_) fun _ => Scanner.steady_throw rfl
      · exact (Scanner.steady_tag move h cell).bind fun tag => ih.bind fun more =>
          Scanner.steady_pure (Block.tag tag :: more)
      · exact (Scanner.steady_expression move h _ cell).bind fun found => ih.bind fun more =>
          Scanner.steady_pure (Block.leaf _ _ :: more)

theorem scanMarkup_moved (h : dialect.Placeless move) (lines : List Line) :
    scanMarkup dialect (lines.map (Line.moved move)) =
      carry (Halt.moved move) (List.map (Block.moved move)) (scanMarkup dialect lines) := by
  simp only [scanMarkup, cellsOfLines_moved, List.length_map,
    steady_markupBlocks move h _ (cellsOfLines lines)]
  generalize (StateT.run _ (cellsOfLines lines) : Except Halt _) = outcome
  cases outcome <;> rfl

theorem refuse_moved (held lines : List Line) :
    refuse (held.map (Line.moved move)) (lines.map (Line.moved move)) =
      (refuse held lines).moved move := by
  cases lines <;> rfl

theorem tryMarkup_moved (h : dialect.Placeless move) (held lines : List Line) :
    tryMarkup dialect (held.map (Line.moved move)) (lines.map (Line.moved move)) =
      carry (Problem.moved move) (Step.moved move) (tryMarkup dialect held lines) := by
  simp only [tryMarkup, scanMarkup_moved move h, paragraph_moved, refuse_moved]
  rcases scanMarkup dialect lines with (_ | fault | problem) | blocks
  · rfl
  · rfl
  · rfl
  · simp [Step.moved, Leaf.moved, idle]

-- ---------------------------------------------------------------------------
-- Module code
-- ---------------------------------------------------------------------------

theorem startsCode_moved (line : Line) : startsCode (line.moved move) = startsCode line := by
  simp only [startsCode, Line.cells_moved, ← List.map_take, chars_moved, Line.start_moved,
    Point.moved]

theorem judgeCode_moved (h : dialect.Placeless move) (start : Point) (value : String)
    (stop : Point) :
    judgeCode dialect (start.moved move) value (stop.moved move) =
      carry (Problem.moved move) (Sum.map (Block.moved move) (Fault.moved move))
        (judgeCode dialect start value stop) := by
  unfold judgeCode
  cases hverdict : dialect.judgeModule value with
  | accepted => simp [Block.moved, NodeKind.moved, h.accepted hverdict, Span.moved]
  | unfinished fault => simp [h.unfinished hverdict]
  | rejected fault offset => simp [Problem.moved, h.rejected hverdict, within_moved]

theorem codeStart_moved (last : Line) (before : List Line) :
    codeStart (last.moved move) (before.map (Line.moved move)) =
      (codeStart last before).moved move := by
  rw [codeStart, List.getLast?_map, codeStart]
  cases before.getLast? <;> simp

theorem judgeLines_moved (h : dialect.Placeless move) (last : Line) (before : List Line) :
    judgeLines dialect (last.moved move) (before.map (Line.moved move)) =
      carry (Problem.moved move) (Sum.map (Block.moved move) (Fault.moved move))
        (judgeLines dialect last before) := by
  simp only [judgeLines, codeStart_moved, Line.stop_moved]
  rw [← List.map_cons, ← List.map_reverse, textOfLines_moved, judgeCode_moved move h]

theorem lastCode_moved (h : dialect.Placeless move) (last : Line) (before : List Line) :
    lastCode dialect (last.moved move) (before.map (Line.moved move)) =
      carry (Problem.moved move) (Block.moved move) (lastCode dialect last before) := by
  simp only [lastCode, judgeLines_moved move h, codeStart_moved, Line.ending_moved,
    Line.after_moved, judgeCode_moved move h]
  rw [← List.map_cons, ← List.map_reverse, textOfLines_moved]
  refine carry_bind _ _ _ _ _ (fun judged => ?_) _
  cases judged with
  | inl block => rfl
  | inr _ =>
    refine carry_bind _ _ _ _ _ (fun judged => ?_) _
    cases judged <;> rfl

-- ---------------------------------------------------------------------------
-- Lines
-- ---------------------------------------------------------------------------

theorem start?_moved (h : dialect.Placeless move) (held : List Line) (line : Line) :
    start? dialect (held.map (Line.moved move)) (line.moved move) =
      carry (Problem.moved move) (Option.map (Step.moved move)) (start? dialect held line) := by
  simp only [start?, Line.indent_moved, List.isEmpty_map, paragraph_moved, Line.cells_moved,
    Line.start_moved, Line.drop_moved, ← List.map_drop, fence?_moved, html?_moved, heading?_moved,
    startOf_moved, Line.stop_moved]
  split
  · split <;> rfl
  cases fence? (line.cells.drop line.indent) with
  | some fence => simp [Step.moved, Leaf.moved]
  | none =>
  simp only [Option.map_none]
  cases if dialect.markup then none else html? (!held.isEmpty) (line.cells.drop line.indent) with
  | some ends =>
    simp only [HtmlEnd.within_moved]
    split
    · have hblock := htmlBlock_moved move line.start line.stop [line]
      rw [List.map_cons, List.map_nil] at hblock
      simp [Step.moved, Leaf.moved, idle, hblock]
    · rfl
  | none =>
  simp only [List.head?_map, Option.any_map, Cell.char_moved]
  split
  · have htry := tryMarkup_moved move h held [line]
    rw [List.map_cons, List.map_nil] at htry
    rw [htry]
    exact carry_map _ _ some some (Option.map (Step.moved move)) (fun _ => rfl) _
  cases heading? (line.cells.drop line.indent) with
  | some found =>
    obtain ⟨level, content⟩ := found
    simp only [Option.map_some, Prod.map_apply, lastStop_moved, Line.span_moved, id_eq]
    simp [Step.moved, Leaf.moved, idle, Block.moved, NodeKind.moved]
  | none =>
  simp only [Option.map_none, startsCode_moved, isThematicBreak_moved, Line.span_moved]
  split
  · rfl
  · split
    · simp [Step.moved, Block.moved, NodeKind.moved, idle, Leaf.moved]
    · rfl

theorem proseStep_moved (h : dialect.Placeless move) (held : List Line) (line : Line) :
    proseStep dialect (held.map (Line.moved move)) (line.moved move) =
      carry (Problem.moved move) (Step.moved move) (proseStep dialect held line) := by
  simp only [proseStep, Line.isBlank_moved, paragraph_moved, Line.indent_moved, Line.cells_moved,
    ← List.map_drop, List.isEmpty_map, underline?_moved, start?_moved move h]
  split
  · rfl
  cases hunder : if dialect.tooDeep line.indent || held.isEmpty then none
      else underline? (line.cells.drop line.indent) with
  | some level =>
    have hheld : held ≠ [] := by
      rintro rfl
      simp at hunder
    exact congrArg Except.ok (underlined_moved move level hheld line)
  | none =>
    refine carry_bind _ _ _ _ _ (fun started => ?_) _
    cases started with
    | some step => rfl
    | none =>
      cases held with
      | nil => rfl
      | cons header before =>
        simp only [Option.map_none, List.map_cons, Table.start?_moved]
        cases if dialect.extended then Table.start? header line else none with
        | none => rfl
        | some columns =>
          simp [Step.moved, moved, paragraph_moved, Table.row_moved, Span.moved, pure, Except.pure]

theorem step_moved (h : dialect.Placeless move) (leaf : Leaf) (line : Line) :
    (leaf.moved move).step dialect (line.moved move) =
      carry (Problem.moved move) (Step.moved move) (leaf.step dialect line) := by
  cases leaf with
  | prose held => exact proseStep_moved move h held line
  | fenced fence indent start lines =>
    simp only [moved, step, Line.indent_moved, Line.cells_moved, ← List.map_drop,
      Fence.closedBy_moved]
    split
    · simp [Step.moved, moved, idle, ← fencedBlock_moved]
    · rfl
  | indented start lines blanks =>
    simp only [moved, step, Line.isBlank_moved, Line.indent_moved]
    split
    · simp [Step.moved, moved]
    · split
      · simp [Step.moved, moved]
      · simp [Step.moved, moved, idle, indentedBlock_moved]
  | html ends start lines =>
    simp only [moved, step, Line.isBlank_moved, Line.cells_moved, HtmlEnd.within_moved]
    split
    · simp only [htmlStop_moved, htmlBlock_moved]
      rfl
    · split
      · rw [← List.map_cons, Line.stop_moved, htmlBlock_moved]
        rfl
      · rfl
  | markup held lines =>
    have htry := tryMarkup_moved move h held (lines ++ [line])
    rw [List.map_append] at htry
    exact htry
  | code last before =>
    simp only [moved, step, Line.isBlank_moved, judgeLines_moved move h]
    split
    · refine carry_bind _ _ _ _ _ (fun judged => ?_) _
      cases judged <;> rfl
    · rfl
  | table columns span rows =>
    have hstart := start?_moved move h [] line
    rw [List.map_nil] at hstart
    simp only [moved, step, Line.isBlank_moved, hstart]
    split
    · simp [Step.moved, moved, idle, Block.moved, NodeKind.moved, pure, Except.pure]
    refine carry_bind _ _ _ _ _ (fun started => ?_) _
    cases started <;>
      simp [Step.moved, moved, Block.moved, NodeKind.moved, Table.row_moved, Span.moved, pure,
        Except.pure]

theorem feed_moved (h : dialect.Placeless move) (fuel : Nat) (leaf : Leaf) (lines : List Line) :
    feed dialect fuel (leaf.moved move) (lines.map (Line.moved move)) =
      carry (Problem.moved move) (Prod.map (List.map (Block.moved move)) (moved move))
        (feed dialect fuel leaf lines) := by
  induction fuel generalizing leaf lines with
  | zero => rfl
  | succ fuel ih =>
    cases lines with
    | nil => rfl
    | cons line rest =>
      simp only [List.map_cons, feed, step_moved move h]
      refine carry_bind _ _ _ _ _ (fun step => ?_) _
      simp only [Step.moved, ← List.map_append, ih]
      refine carry_bind _ _ _ _ _ (fun found => ?_) _
      simp [pure, Except.pure]

@[simp] theorem held_moved (leaf : Leaf) :
    (leaf.moved move).held = leaf.held.map (Line.moved move) := by
  cases leaf <;> rfl

theorem fuel_moved (leaf : Leaf) (lines : List Line) :
    (leaf.moved move).fuel (lines.map (Line.moved move)) = leaf.fuel lines := by
  simp [fuel]

theorem read_moved (h : dialect.Placeless move) (leaf : Leaf) (line : Line) :
    (leaf.moved move).read dialect (line.moved move) =
      carry (Problem.moved move) (Prod.map (List.map (Block.moved move)) (moved move))
        (leaf.read dialect line) := by
  have hfuel := fuel_moved move leaf [line]
  have hfeed := feed_moved move h (leaf.fuel [line]) leaf [line]
  rw [List.map_cons, List.map_nil] at hfuel hfeed
  rw [read, hfuel, hfeed, read]

theorem isOpenEnded_moved (leaf : Leaf) : (leaf.moved move).isOpenEnded = leaf.isOpenEnded := by
  cases leaf with
  | html ends => cases ends <;> rfl
  | _ => rfl

theorem isParagraph_moved (leaf : Leaf) : (leaf.moved move).isParagraph = leaf.isParagraph := by
  cases leaf <;> simp [moved, isParagraph]

theorem isConcrete_moved (leaf : Leaf) : (leaf.moved move).isConcrete = leaf.isConcrete := by
  cases leaf <;> rfl

theorem finish_moved (h : dialect.Placeless move) (stop : Point) (rounds : Nat) (leaf : Leaf) :
    (leaf.moved move).finish dialect (stop.moved move) rounds =
      carry (Problem.moved move) (List.map (Block.moved move))
        (leaf.finish dialect stop rounds) := by
  fun_induction finish dialect stop rounds leaf with
  | case1 rounds held => simp [moved, finish, paragraph_moved]
  | case2 rounds fence indent start lines => simp [moved, finish, fencedBlock_moved]
  | case3 rounds start lines blanks => simp [moved, finish, indentedBlock_moved]
  | case4 rounds ends start lines last =>
    have hlast : (if ends = .blank then (lines.map (Line.moved move)).head?.elim (start.moved move)
        Line.stop else stop.moved move) = last.moved move := by
      simp only [htmlStop_moved, last]
      split <;> rfl
    simp only [moved, finish, hlast, htmlBlock_moved]
    rfl
  | case5 rounds last before =>
    simp only [moved, finish, lastCode_moved move h]
    exact carry_map _ _ (fun block => [block]) (fun block => [block]) (List.map (Block.moved move))
      (fun _ => rfl) _
  | case6 rounds columns span rows => simp [moved, finish, Block.moved, NodeKind.moved]
  | case7 held lines => rfl
  | case8 rounds held lines fault hscan =>
    simp [moved, finish, scanMarkup_moved move h, hscan, Halt.moved, Problem.moved]
  | case9 rounds held lines problem hscan =>
    simp [moved, finish, scanMarkup_moved move h, hscan, Halt.moved]
  | case10 rounds held lines step hended hfailed ih =>
    have hstep : (do
          let found ← feed dialect ((step.moved move).leaf.fuel (step.moved move).again)
            (step.moved move).leaf (step.moved move).again
          return found.1 ++ (← finish dialect (stop.moved move) rounds found.2)) =
        carry (Problem.moved move) (List.map (Block.moved move)) (do
          let found ← feed dialect (step.leaf.fuel step.again) step.leaf step.again
          return found.1 ++ (← finish dialect stop rounds found.2)) := by
      simp only [Step.moved, fuel_moved, feed_moved move h]
      refine carry_bind _ _ _ _ _ (fun found => ?_) _
      simp only [Prod.map_fst, Prod.map_snd, ih]
      exact carry_bind _ _ _ _ _ (fun more => by simp [pure, Except.pure]) _
    simp only [moved, finish, scanMarkup_moved move h, refuse_moved]
    rcases hscan : scanMarkup dialect lines with (_ | (_ | fault) | problem) | blocks
    · exact hstep
    · exact hstep
    · exact (hended fault hscan).elim
    · exact (hfailed problem hscan).elim
    · exact hstep

theorem close_moved (h : dialect.Placeless move) (stop : Point) (leaf : Leaf) :
    (leaf.moved move).close dialect (stop.moved move) =
      carry (Problem.moved move) (List.map (Block.moved move)) (leaf.close dialect stop) := by
  simp [close, finish_moved move h]

theorem keepsLazily_moved (h : dialect.Placeless move) (leaf : Leaf) (line : Line) :
    (leaf.moved move).keepsLazily dialect (line.moved move) = leaf.keepsLazily dialect line := by
  cases leaf with
  | prose held =>
    have hstart := start?_moved move h held line
    have hopen := isParagraph_moved move (.prose held)
    rw [moved] at hopen
    simp only [keepsLazily, Line.isBlank_moved, moved, hopen, hstart]
    congr 1
    rcases start? dialect held line with problem | _ | ⟨blocks, leaf, again⟩
    · rfl
    · rfl
    · cases leaf with
      | prose lines =>
        cases lines with
        | nil => rfl
        | cons first more =>
          exact decide_eq_decide.mpr ⟨Line.eq_of_moved move, congrArg _⟩
      | _ => rfl
  | _ => simp [keepsLazily, moved]

theorem addLine_moved (leaf : Leaf) (line : Line) :
    (leaf.moved move).addLine (line.moved move) = (leaf.addLine line).moved move := by
  cases leaf <;> rfl

end Leaf

end

end PagePrelude.Markdown
