import PagePrelude.Markdown.Block
import PagePrelude.Markdown.LineForm

/-!
# Rows of tables
-/

namespace PagePrelude.Markdown

namespace Table

/-- The parts of a row between its bars. `part` is the one being read, newest first. A bar
after a backslash stands for itself. -/
def split (part : List Cell) : List Cell → List (List Cell)
  | [] => [part.reverse]
  | [cell] => if cell.char = '|' then [part.reverse, []] else [(cell :: part).reverse]
  | cell :: next :: rest =>
    if cell.char = '\\' && next.char = '|' then split (next :: cell :: part) rest
    else if cell.char = '|' then part.reverse :: split [] (next :: rest)
    else split (cell :: part) (next :: rest)

/-- Cells without the blanks around them. -/
def trim (cells : List Cell) : List Cell :=
  trimEnd (cells.dropWhile Cell.isBlank)

/-- The contents of a row. Bars at its ends part nothing. -/
def contents (cells : List Cell) : List (List Cell) :=
  let parts := (split [] (trim cells)).map trim
  let parts := if (parts.head?.any List.isEmpty) then parts.drop 1 else parts
  if (parts.getLast?.any List.isEmpty) then parts.dropLast else parts

/-- The alignment that a part of a row of dashes asks for. -/
def alignment? (cells : List Cell) : Option Alignment :=
  let chars := cells.map Cell.char
  let left := chars.head? == some ':'
  let right := chars.length > 1 && chars.getLast? == some ':'
  let dashes := if left then chars.drop 1 else chars
  let dashes := if right then dashes.dropLast else dashes
  if dashes.isEmpty || !dashes.all (· = '-') then none
  else
    match left, right with
    | true, true => some .center
    | true, false => some .left
    | false, true => some .right
    | false, false => some .none

/-- The columns that a row of dashes describes. A lone run of dashes is no such row. -/
def columns? (cells : List Cell) : Option (List Alignment) :=
  let columns := contents cells
  if columns.isEmpty || !cells.any fun cell => cell.char = ':' || cell.char = '|' then none
  else columns.mapM alignment?

/-- The columns of the table that two lines start. -/
def start? (header line : Line) : Option (List Alignment) :=
  match columns? line.cells with
  | some columns =>
    if visibleChars header.trimStart.cells != ['|'] &&
        (contents header.cells).length = columns.length then some columns
    else none
  | none => none

/-- A row as a block. -/
def row (line : Line) : Block :=
  .group .tableRow .tableRow line.span <|
    (contents line.cells).map fun cells =>
      let stop := cells.getLast?.elim line.stop Cell.stop
      .ofCells .tableCell .tableCell cells stop

end Table

end PagePrelude.Markdown
