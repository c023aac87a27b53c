import PagePrelude.Node

/-!
# Lines of a document

A document is read as lines of cells, one for each column that can be counted: a tab
is a cell for itself and one for every further column up to the next tab stop, so that
any number of columns can be taken off a line. A line ending is a cell too where
several lines are read as one text.
-/

namespace PagePrelude.Markdown

/-- One column of a document, or the ending of a line. -/
structure Cell where
  /-- What the cell counts as: a space for a column within a tab, a line feed for any ending. -/
  char : Char
  /-- What is written there: nothing for a column within a tab. -/
  text : String
  start : Point
  deriving DecidableEq, Repr, Inhabited

namespace Cell

/-- A space or a tab. -/
def isBlank (cell : Cell) : Bool :=
  cell.char = ' ' || cell.char = '\t'

/-- The ending of a line. -/
def isEnding (cell : Cell) : Bool :=
  cell.char = '\n'

/-- Where a cell within a line ends. -/
def stop (cell : Cell) : Point :=
  let size := cell.text.utf8ByteSize
  { cell.start with column := cell.start.column + size, offset := cell.start.offset + size }

/-- A space, a tab or the ending of a line. -/
def isGap (cell : Cell) : Bool :=
  cell.isBlank || cell.isEnding

end Cell

/-- One line of a document, without the part that its containers have taken. -/
structure Line where
  cells : List Cell
  /-- Where the line ends, before its ending. -/
  stop : Point
  /-- How the line is ended; nothing for a last line without an ending. -/
  ending : String
  /-- Where the next line starts. -/
  after : Point
  deriving DecidableEq, Repr, Inhabited

/-- The distance between tab stops. -/
def tabSize : Nat := 4

/-- The cells of a character at a point that ends no line, and the point after it. -/
def cellsOf (c : Char) (point : Point) : List Cell × Point :=
  if c = '\t' then
    let after := { point with column := point.column + 1, offset := point.offset + 1 }
    let more := (tabSize - point.column % tabSize) % tabSize
    let fill := (List.range more).map fun k =>
      ⟨' ', "", { after with column := after.column + k }⟩
    (⟨c, "\t", point⟩ :: fill, { after with column := after.column + more })
  else
    ([⟨c, c.toString, point⟩],
      { point with column := point.column + c.utf8Size, offset := point.offset + c.utf8Size })

/-- The point after a line ending at a point. -/
def pointAfter (ending : String) (point : Point) : Point :=
  ⟨point.line + 1, 1, point.offset + ending.utf8ByteSize⟩

namespace Line

/-- The lines of some characters from a point on. The first line starts with cells already
read, newest first. A text that ends with a line ending has no empty line after it. -/
def ofChars (point : Point) (cells : List Cell) : List Char → List Line
  | [] => if cells.isEmpty then [] else [⟨cells.reverse, point, "", point⟩]
  | '\r' :: '\n' :: chars =>
    let after := pointAfter "\r\n" point
    ⟨cells.reverse, point, "\r\n", after⟩ :: ofChars after [] chars
  | '\r' :: chars =>
    let after := pointAfter "\r" point
    ⟨cells.reverse, point, "\r", after⟩ :: ofChars after [] chars
  | '\n' :: chars =>
    let after := pointAfter "\n" point
    ⟨cells.reverse, point, "\n", after⟩ :: ofChars after [] chars
  | c :: chars =>
    let (more, after) := cellsOf c point
    ofChars after (more.reverse ++ cells) chars

/-- The lines of a document. A byte order mark at the start is no part of the first line, but takes
a column for each of its bytes. -/
def ofText (text : String) : List Line :=
  match text.toList with
  | '\uFEFF' :: chars => ofChars ⟨1, 4, 3⟩ [] chars
  | chars => ofChars ⟨1, 1, 0⟩ [] chars

/-- Where what is left of a line starts. -/
def start (line : Line) : Point :=
  match line.cells with
  | cell :: _ => cell.start
  | [] => line.stop

/-- Whether a line holds nothing but spaces and tabs. -/
def isBlank (line : Line) : Bool :=
  line.cells.all Cell.isBlank

/-- A line without its first cells. -/
def drop (line : Line) (count : Nat) : Line :=
  { line with cells := line.cells.drop count }

/-- How many spaces and tabs a line starts with. -/
def indent (line : Line) : Nat :=
  (line.cells.takeWhile Cell.isBlank).length

/-- A line without the spaces and tabs at its start. -/
def trimStart (line : Line) : Line :=
  line.drop line.indent

/-- The ending of a line as a cell, if it has one. -/
def endingCell (line : Line) : List Cell :=
  if line.ending.isEmpty then [] else [⟨'\n', line.ending, line.stop⟩]

/-- The characters of a line. -/
def chars (line : Line) : List Char :=
  line.cells.map Cell.char

/-- The span of what is left of a line. -/
def span (line : Line) : Span :=
  ⟨line.start, line.stop⟩

end Line

/-- Cells without the spaces and tabs at their end. -/
def trimEnd (cells : List Cell) : List Cell :=
  (cells.reverse.dropWhile Cell.isBlank).reverse

/-- The cells of several lines, with the endings. -/
def cellsOfLines (lines : List Line) : List Cell :=
  lines.flatMap fun line => line.cells ++ line.endingCell

/-- The source text of cells. A stretch that starts within a tab starts with the columns that
are left of it. -/
def textOf (cells : List Cell) : String :=
  let columns := cells.takeWhile (·.text.isEmpty)
  String.join (columns.map (fun _ => " ") ++ (cells.drop columns.length).map Cell.text)

/-- Where cells start, if they stand before a point. -/
def startOf (cells : List Cell) (stop : Point) : Point :=
  match cells with
  | cell :: _ => cell.start
  | [] => stop

end PagePrelude.Markdown
