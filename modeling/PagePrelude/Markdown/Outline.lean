import PagePrelude.Markdown.Container

/-!
# The blocks of a document

Lines are read one after the other. Each first goes on with the open containers as far as
it can, then starts new ones, and what is left of it goes to the open block. A paragraph
may go on in a line that has left its containers.
-/

namespace PagePrelude.Markdown

/-- What is known of a document up to the end of a line. -/
structure Outline where
  /-- The open containers, innermost first. -/
  frames : List Frame := []
  /-- The blocks outside of them. -/
  blocks : List Block := []
  leaf : Leaf := .idle
  /-- Where the last line ends, before its ending. -/
  stop : Point := default
  /-- Where the next line starts. -/
  after : Point := default
  /-- Whether there was nothing in the last line but containers. -/
  blank : Bool := false

namespace Outline

/-- Adds blocks to the innermost container. -/
def addBlocks (outline : Outline) (blocks : List Block) : Outline :=
  match outline.frames with
  | frame :: frames =>
    { outline with frames := { frame with blocks := frame.blocks ++ blocks } :: frames }
  | [] => { outline with blocks := outline.blocks ++ blocks }

/-- Closes the innermost container at a point. -/
def leave (dialect : Dialect) (outline : Outline) (stop : Point) : Outline :=
  match outline.frames with
  | [] => outline
  | frame :: outer :: frames =>
    let blocks := addBlock outer.blocks frame.container outline.blank (frame.block dialect stop)
    { outline with frames := { outer with blocks } :: frames }
  | [frame] =>
    let blocks := addBlock outline.blocks frame.container outline.blank (frame.block dialect stop)
    { outline with frames := [], blocks }

/-- Closes some containers at a point. -/
def leaveMany (dialect : Dialect) (stop : Point) : Nat → Outline → Outline
  | 0, outline => outline
  | count + 1, outline => leaveMany dialect stop count (outline.leave dialect stop)

/-- Closes the open block and some containers. A block that would go on takes in the ending
of the last line if `whole`. -/
def close (dialect : Dialect) (outline : Outline) (count : Nat) (whole : Bool) :
    Except Problem Outline := do
  let stop := if whole && outline.leaf.isOpenEnded then outline.after else outline.stop
  let blocks ← outline.leaf.close dialect (if whole then outline.after else outline.stop)
  return leaveMany dialect stop count { outline.addBlocks blocks with leaf := .idle }

/-- Goes on with containers, outermost first: the containers as they are after the line, how
many the line has left, and the rest of the line. -/
def goOn (dialect : Dialect) (line : Line) : List Frame → List Frame × Nat × Line
  | [] => ([], 0, line)
  | frame :: frames =>
    match frame.container.continue? dialect line with
    | some (container, rest) =>
      let (more, left, rest) := goOn dialect rest frames
      ({ frame with container } :: more, left, rest)
    | none => (frame :: frames, frames.length + 1, line)

/-- Opens the containers that a line starts, after closing what it has left. -/
def openAll (dialect : Dialect) :
    Nat → Outline → Nat → Line → Except Problem (Outline × Nat × Line)
  | 0, outline, left, line => .ok (outline, left, line)
  | fuel + 1, outline, left, line =>
    if left = 0 && outline.leaf.isConcrete then .ok (outline, left, line)
    else
      match Container.start? dialect (left = 0 && outline.leaf.isParagraph) line with
      | none => .ok (outline, left, line)
      | some (container, rest) => do
        let outline ← outline.close dialect left true
        let frame := { container, start := container.startPoint line }
        openAll dialect fuel { outline with frames := frame :: outline.frames } 0 rest

/-- The fault of markup that goes on in a line that has left its container. -/
def lazyFault? (dialect : Dialect) (leaf : Leaf) : Option Fault :=
  match leaf with
  | .markup _ lines =>
    match Leaf.scanMarkup dialect lines with
    | .error (.ended fault) => some (.lazyLine fault.isSome)
    | _ => none
  | _ => none

/-- Reads the part of a line that containers have left over. -/
def readRest (dialect : Dialect) (outline : Outline) (left : Nat) (line : Line) :
    Except Problem Outline := do
  if left > 0 && outline.leaf.keepsLazily dialect line then
    return { outline with leaf := outline.leaf.addLine line }
  if left > 0 then
    if let some fault := lazyFault? dialect outline.leaf then throw ⟨fault, line.start⟩
  let outline ← if left > 0 then outline.close dialect left false else pure outline
  let (blocks, leaf) ← outline.leaf.read dialect line
  return { outline.addBlocks blocks with leaf }

/-- Reads a line. -/
def read (dialect : Dialect) (outline : Outline) (line : Line) : Except Problem Outline := do
  let (frames, left, rest) := goOn dialect line outline.frames.reverse
  let (outline, left, rest) ←
    openAll dialect (line.cells.length + 1) { outline with frames := frames.reverse } left rest
  let outline ← outline.readRest dialect left rest
  return { outline with stop := line.stop, after := line.after, blank := rest.isBlank }

/-- The blocks of a document at its end. -/
def finish (dialect : Dialect) (outline : Outline) : Except Problem (List Block) := do
  let last : Line := { cells := [], stop := outline.after, ending := "", after := outline.after }
  let (_, left, _) := goOn dialect last outline.frames.reverse
  if outline.stop != outline.after && left > 0 then
    if let some fault := lazyFault? dialect outline.leaf then throw ⟨fault, outline.after⟩
  return (← outline.close dialect outline.frames.length true).blocks

/-- The blocks of some lines. -/
def blocksOf (dialect : Dialect) (lines : List Line) : Except Problem (List Block) := do
  let outline ← lines.foldlM (read dialect) {}
  finish dialect outline

end Outline

end PagePrelude.Markdown
