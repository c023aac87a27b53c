import PagePrelude.Markdown.Leaf

/-!
# Containers

Block quotes, items of lists and definitions of footnotes hold blocks. A container goes on
as long as lines start with what it asks for, which is taken off before the rest of the
line is read.
-/

namespace PagePrelude.Markdown

/-- A kind of open container. -/
inductive Container where
  | quote
  /-- An item of a list with the given marker, and the number it is given, if any. Its lines
  are indented by `size`; `empty` says that nothing has followed the marker yet. -/
  | item (marker : Char) (number : Option Nat) (size : Nat) (empty : Bool)
  | footnote (label : String)
  deriving DecidableEq, Repr

/-- An open container with the blocks in it, in order. -/
structure Frame where
  container : Container
  start : Point
  blocks : List Block := []
  deriving Repr

namespace Container

/-- The line without the mark of a block quote. -/
def dropQuoteMark? (dialect : Dialect) (line : Line) : Option Line :=
  let rest := line.trimStart
  if dialect.tooDeep line.indent then none
  else match rest.cells with
    | mark :: more =>
      if mark.char = '>' then
        some (rest.drop (if more.head?.any Cell.isBlank then 2 else 1))
      else none
    | [] => none

/-- Goes on with a container: what it is after the line, and the line without what it asks
for. -/
def continue? (dialect : Dialect) (line : Line) : Container → Option (Container × Line)
  | quote => (dropQuoteMark? dialect line).map (quote, ·)
  | item marker number size empty =>
    if line.isBlank then
      if empty then none else some (item marker number size false, line.drop (min size line.indent))
    else if line.indent ≥ size then some (item marker number size false, line.drop size)
    else none
  | footnote label =>
    if line.isBlank || line.indent ≥ tabSize then
      some (footnote label, line.drop (min tabSize line.indent))
    else none

/-- The marker of an item at the start of cells, its number, and how many cells it takes. -/
def marker? (interrupts : Bool) (cells : List Cell) : Option (Char × Option Nat × Nat) :=
  match cells with
  | [] => none
  | first :: rest =>
    if ['*', '+', '-'].contains first.char then some (first.char, none, 1)
    else
      let digits := (cells.takeWhile (·.char.isDigit)).map Cell.char
      match (cells.drop digits.length).head? with
      | some mark =>
        if (mark.char = '.' || mark.char = ')') && 1 ≤ digits.length && digits.length ≤ 9 &&
            (!interrupts || (first.char = '1' && rest.head? = some mark)) then
          (String.ofList digits).toNat?.map fun n => (mark.char, some n, digits.length + 1)
        else none
      | none => none

/-- The item of a list that a line starts. Where it would interrupt a paragraph, it has to have
content and the number one. -/
def item? (dialect : Dialect) (interrupts : Bool) (line : Line) : Option (Container × Line) := do
  let indent := line.indent
  let cells := line.cells.drop indent
  if dialect.tooDeep indent || isThematicBreak cells then none
  let (marker, number, width) ← marker? interrupts cells
  let rest := cells.drop width
  let gap := (rest.takeWhile Cell.isBlank).length
  if rest.all Cell.isBlank then
    if interrupts then none
    else some (item marker number (indent + width + 1) true, line.drop (indent + width))
  else if gap = 0 then none
  else
    let size := indent + width + (if gap ≤ tabSize then gap else 1)
    some (item marker number size false, line.drop size)

/-- The definition of a footnote that a line starts. -/
def footnote? (dialect : Dialect) (line : Line) : Option (Container × Line) := do
  let cells := line.trimStart.cells
  if !dialect.extended || dialect.tooDeep line.indent then none
  let (label, rest) ← LinkPart.label? cells
  let colon ← rest.head?
  match label with
  | mark :: name =>
    if mark.char = '^' && !name.isEmpty && name.all (!·.isGap) && colon.char = ':' then
      let after := (rest.drop 1).takeWhile Cell.isBlank
      let taken := line.cells.length - rest.length + 1 + after.length
      some (footnote (textOf name), line.drop taken)
    else none
  | [] => none

/-- The container that a line starts. -/
def start? (dialect : Dialect) (interrupts : Bool) (line : Line) : Option (Container × Line) :=
  ((dropQuoteMark? dialect line).map (quote, ·)).or <|
    (item? dialect interrupts line).or (footnote? dialect line)

/-- Where the node of a container starts that a line starts. The mark of a block quote is the
first thing in it; other containers start with the line. -/
def startPoint (line : Line) : Container → Point
  | quote => line.trimStart.start
  | _ => line.start

end Container

/-- Blocks with one more at the end. An item goes into the list before it if that has the same
marker. -/
def addBlock (blocks : List Block) (container : Container) (blank : Bool) (block : Block) :
    List Block :=
  match container with
  | .item marker number _ _ =>
    match blocks.getLast? with
    | some (.list other start gap loose span items) =>
      if other = marker then
        blocks.dropLast ++
          [.list marker start blank (loose || gap) ⟨span.start, block.span.stop⟩ (items ++ [block])]
      else blocks ++ [.list marker number blank false block.span [block]]
    | _ => blocks ++ [.list marker number blank false block.span [block]]
  | _ => blocks ++ [block]

/-- The state of the check box that cells start with, and the cells after it. Something has to
follow the box. -/
def checkBox? : List Cell → Option (Bool × List Cell)
  | opening :: mark :: closing :: gap :: rest =>
    let checked := mark.char = 'x' || mark.char = 'X'
    if opening.char = '[' && (checked || mark.isGap) && closing.char = ']' && gap.isGap &&
        !rest.all Cell.isGap then some (checked, rest)
    else none
  | _ => none

/-- The state of the check box in the first paragraph of an item, and the blocks without it. -/
def takeCheckBox (dialect : Dialect) (blocks : List Block) : Option Bool × List Block :=
  match blocks with
  | .prose .paragraph construct span cells stop :: rest =>
    match if dialect.extended then checkBox? (cells.dropWhile Cell.isBlank) else none with
    | some (checked, cells) => (some checked, .prose .paragraph construct span cells stop :: rest)
    | none => (none, blocks)
  | _ => (none, blocks)

/-- A container that ends at a point as a block. -/
def Frame.block (dialect : Dialect) (frame : Frame) (stop : Point) : Block :=
  let span := ⟨frame.start, stop⟩
  match frame.container with
  | .quote => .group .blockQuote .blockQuote span frame.blocks
  | .item .. =>
    let (checked, blocks) := takeCheckBox dialect frame.blocks
    .group (.listItem (Block.anyApart stop blocks) checked) .listItem span blocks
  | .footnote label =>
    .group (.footnoteDefinition label) .footnoteDefinition span frame.blocks

end PagePrelude.Markdown
