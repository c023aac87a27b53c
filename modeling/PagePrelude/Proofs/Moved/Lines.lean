import Mathlib.Data.List.Basic
import PagePrelude.Markdown.Line

/-!
# Lines that stand elsewhere

A document can stand further down in another one: its lines come some lines later and its
bytes some bytes later, and its columns stay. Reading a document goes along with such a
move, part by part; here are points, cells and lines.

A move can also put something else in the place of nodes: of data blocks, and of some
module code. Reading that goes along with these moves cannot have made such nodes.
-/

namespace PagePrelude

/-- A change of place. -/
structure Move where
  /-- The lines in front. -/
  lines : Nat := 0
  /-- The bytes in front. -/
  bytes : Nat := 0
  /-- Whether data blocks stay what they are. -/
  keepsData : Bool := true
  /-- The module code that stays what it is. -/
  keepsCode : String → Bool := fun _ => true

def Point.moved (move : Move) (point : Point) : Point :=
  ⟨point.line + move.lines, point.column, point.offset + move.bytes⟩

def Span.moved (move : Move) (span : Span) : Span :=
  ⟨span.start.moved move, span.stop.moved move⟩

namespace Markdown

def Cell.moved (move : Move) (cell : Cell) : Cell :=
  { cell with start := cell.start.moved move }

def Line.moved (move : Move) (line : Line) : Line :=
  { line with
    cells := line.cells.map (Cell.moved move)
    stop := line.stop.moved move
    after := line.after.moved move }

section
variable (move : Move)

-- ---------------------------------------------------------------------------
-- Points
-- ---------------------------------------------------------------------------

theorem point_eq_of_moved {point other : Point} (h : point.moved move = other.moved move) :
    point = other := by
  obtain ⟨line, column, offset⟩ := point
  obtain ⟨line', column', offset'⟩ := other
  simpa [Point.moved] using h

@[simp] theorem moved_inj {point other : Point} :
    point.moved move = other.moved move ↔ point = other :=
  ⟨point_eq_of_moved move, congrArg _⟩

theorem line_moved (point : Point) : (point.moved move).line = point.line + move.lines := by
  cases point; rfl

/-- A point further on in the same line. -/
theorem moved_further (point : Point) (column size : Nat) :
    ({ point with column := column, offset := point.offset + size } : Point).moved move =
      { point.moved move with column := column, offset := (point.moved move).offset + size } := by
  simp [Point.moved, Nat.add_right_comm]

@[simp] theorem pointAfter_moved (ending : String) (point : Point) :
    pointAfter ending (point.moved move) = (pointAfter ending point).moved move := by
  simp [pointAfter, Point.moved, Nat.add_right_comm]

theorem within_moved (point : Point) (offset : Nat) (chars : List Char) :
    (point.moved move).within offset chars = (point.within offset chars).moved move := by
  induction chars generalizing point offset with
  | nil => rfl
  | cons c rest ih =>
    rw [Point.within, Point.within]
    split
    · rfl
    · rw [← ih]
      by_cases hbreak : (c = '\n' || (c = '\r' && rest.head? != some '\n')) = true <;>
        simp only [hbreak, if_true, if_false, Bool.false_eq_true, Point.moved, Nat.add_right_comm]

-- ---------------------------------------------------------------------------
-- Cells
-- ---------------------------------------------------------------------------

namespace Cell

variable (cell : Cell)

-- By cases and not by `rfl` alone: rewriting with the latter leaves the old instance in `decide`.
@[simp] theorem char_moved : (cell.moved move).char = cell.char := by cases cell; rfl
@[simp] theorem text_moved : (cell.moved move).text = cell.text := by cases cell; rfl
@[simp] theorem start_moved : (cell.moved move).start = cell.start.moved move := by cases cell; rfl
@[simp] theorem isBlank_moved : (cell.moved move).isBlank = cell.isBlank := by simp [isBlank]
@[simp] theorem isEnding_moved : (cell.moved move).isEnding = cell.isEnding := by simp [isEnding]
@[simp] theorem isGap_moved : (cell.moved move).isGap = cell.isGap := by simp [isGap]

@[simp] theorem stop_moved : (cell.moved move).stop = cell.stop.moved move :=
  (moved_further move cell.start _ _).symm

theorem eq_of_moved {cell other : Cell} (h : cell.moved move = other.moved move) :
    cell = other := by
  obtain ⟨char, text, start⟩ := cell
  obtain ⟨char', text', start'⟩ := other
  simpa [moved] using h

end Cell

section
variable (cells : List Cell) (p : Char → Bool)

@[simp] theorem trimEnd_moved :
    trimEnd (cells.map (Cell.moved move)) = (trimEnd cells).map (Cell.moved move) := by
  simp [trimEnd, ← List.map_reverse, List.dropWhile_map, Function.comp_def]

@[simp] theorem textOf_moved : textOf (cells.map (Cell.moved move)) = textOf cells := by
  simp [textOf, List.takeWhile_map, ← List.map_drop, Function.comp_def]

@[simp] theorem startOf_moved (stop : Point) :
    startOf (cells.map (Cell.moved move)) (stop.moved move) = (startOf cells stop).moved move := by
  cases cells <;> rfl

end

/-- Where the last of some cells ends, or a point after none. -/
@[simp] theorem lastStop_moved (cells : List Cell) (stop : Point) :
    (cells.map (Cell.moved move)).getLast?.elim (stop.moved move) Cell.stop =
      (cells.getLast?.elim stop Cell.stop).moved move := by
  rw [List.getLast?_map]
  cases cells.getLast? <;> simp

theorem cellsOf_moved (c : Char) (point : Point) : cellsOf c (point.moved move) =
    ((cellsOf c point).1.map (Cell.moved move), (cellsOf c point).2.moved move) := by
  unfold cellsOf
  split <;> simp [Cell.moved, Point.moved, Nat.add_right_comm, Function.comp_def]

-- ---------------------------------------------------------------------------
-- Lines
-- ---------------------------------------------------------------------------

namespace Line

/-- The lines of a text go along with the point that it starts at. -/
theorem ofChars_moved (point : Point) (cells : List Cell) (chars : List Char) :
    ofChars (point.moved move) (cells.map (Cell.moved move)) chars =
      (ofChars point cells chars).map (Line.moved move) := by
  fun_induction ofChars point cells chars with
  | case1 point cells hempty => simp [ofChars, List.isEmpty_iff.mp hempty]
  | case2 point cells hempty => simp [ofChars, moved, hempty]
  | case3 point cells chars after ih =>
    rw [ofChars, pointAfter_moved]
    simp [moved, after, ← ih]
  | case4 point cells chars hlf after ih =>
    rw [ofChars.eq_3 _ _ _ hlf, pointAfter_moved]
    simp [moved, after, ← ih]
  | case5 point cells chars after ih =>
    rw [ofChars, pointAfter_moved]
    simp [moved, after, ← ih]
  | case6 point cells c chars hcrlf hcr hlf more after heq ih =>
    rw [ofChars.eq_5 _ _ _ _ hcrlf hcr hlf, cellsOf_moved, heq]
    simp [← ih]

variable (line : Line)

@[simp] theorem cells_moved : (line.moved move).cells = line.cells.map (Cell.moved move) := rfl
@[simp] theorem stop_moved : (line.moved move).stop = line.stop.moved move := rfl
@[simp] theorem ending_moved : (line.moved move).ending = line.ending := by cases line; rfl
@[simp] theorem after_moved : (line.moved move).after = line.after.moved move := rfl

@[simp] theorem start_moved : (line.moved move).start = line.start.moved move :=
  startOf_moved move line.cells line.stop

@[simp] theorem isBlank_moved : (line.moved move).isBlank = line.isBlank := by
  simp [isBlank, Function.comp_def]

@[simp] theorem drop_moved (count : Nat) :
    (line.moved move).drop count = (line.drop count).moved move := by
  simp [drop, moved, List.map_drop]

@[simp] theorem indent_moved : (line.moved move).indent = line.indent := by
  simp [indent, List.takeWhile_map, Function.comp_def]

@[simp] theorem trimStart_moved : (line.moved move).trimStart = line.trimStart.moved move := by
  simp [trimStart]

@[simp] theorem endingCell_moved :
    (line.moved move).endingCell = line.endingCell.map (Cell.moved move) := by
  unfold endingCell
  rw [ending_moved]
  split <;> rfl

@[simp] theorem span_moved : (line.moved move).span = line.span.moved move := by
  simp [span, Span.moved]

theorem eq_of_moved {line other : Line} (h : line.moved move = other.moved move) :
    line = other := by
  obtain ⟨cells, stop, ending, after⟩ := line
  obtain ⟨cells', stop', ending', after'⟩ := other
  simp only [moved, mk.injEq, moved_inj] at h
  obtain ⟨hcells, rfl, rfl, rfl⟩ := h
  have hmap : Function.Injective (List.map (Cell.moved move)) :=
    List.map_injective_iff.mpr fun _ _ => Cell.eq_of_moved move
  rw [hmap hcells]

end Line

@[simp] theorem cellsOfLines_moved (lines : List Line) :
    cellsOfLines (lines.map (Line.moved move)) = (cellsOfLines lines).map (Cell.moved move) := by
  simp [cellsOfLines, List.flatMap_map, List.map_flatMap]

end

end Markdown

end PagePrelude
