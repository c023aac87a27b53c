import PagePrelude.Markdown.LineForm
import PagePrelude.Markdown.Table

/-!
# Blocks that hold no blocks

At any time at most one such block is open. Each line either goes on with it or ends it
and starts another. Markup is tried line by line: if it turns out that there is none,
the first of its lines is part of a paragraph and the others are read again.
-/

namespace PagePrelude.Markdown

/-- An open block that holds no blocks. Lines of paragraphs and of module code stand in reverse
order. -/
inductive Leaf where
  /-- A paragraph; without lines, nothing. -/
  | prose (lines : List Line)
  /-- Code between fences, the first of which is so far indented. -/
  | fenced (fence : Fence) (indent : Nat) (start : Point) (lines : List Line)
  /-- Code that is indented, with the blank lines after it. -/
  | indented (start : Point) (lines blanks : List Line)
  /-- HTML. -/
  | html (ends : HtmlEnd) (start : Point) (lines : List Line)
  /-- Tags and expressions that have not ended, after lines of a paragraph. -/
  | markup (held lines : List Line)
  /-- Module code: its last line, and the lines before that. -/
  | code (last : Line) (before : List Line)
  | table (columns : List Alignment) (span : Span) (rows : List Block)
  deriving Repr, Inhabited

namespace Leaf

/-- No block. -/
def idle : Leaf := .prose []

/-- Whether a paragraph is open. -/
def isParagraph : Leaf → Bool
  | .prose lines => !lines.isEmpty
  | _ => false

/-- Whether no container can start inside the open block. -/
def isConcrete : Leaf → Bool
  | .fenced .. | .html .. | .markup .. | .code .. => true
  | .prose _ | .indented .. | .table .. => false

/-- What a line makes of the open block. -/
structure Step where
  /-- The blocks that are finished. -/
  blocks : List Block := []
  leaf : Leaf := idle
  /-- Lines to read again. -/
  again : List Line := []

/-- The text of lines, with the endings between them. -/
def textOfLines : List Line → String
  | [] => ""
  | [line] => textOf line.cells
  | line :: rest => textOf line.cells ++ line.ending ++ textOfLines rest

/-! ## Paragraphs -/

/-- The cells of the lines of a paragraph, and where they end. -/
def proseCells : List Line → List Cell × Point
  | [] => ([], default)
  | last :: before => (cellsOfLines before.reverse ++ last.cells, last.stop)

/-- The definitions that a paragraph starts with, and the rest of it as a block that ends at a
point. -/
def proseBlocks (kind : NodeKind) (construct : Construct) (stop : Point) (lines : List Line) :
    List Block × List Block :=
  let (cells, last) := proseCells lines
  let (definitions, rest) := Definition.takeAll last lines.length cells
  let words :=
    if rest.isEmpty then []
    else [.prose kind construct ⟨startOf rest last, stop⟩ rest last]
  (definitions.map .definition, words)

/-- A paragraph as blocks. -/
def paragraph : List Line → List Block
  | [] => []
  | last :: before =>
    let (definitions, words) := proseBlocks .paragraph .paragraph last.stop (last :: before)
    definitions ++ words

/-- What an underline makes of a paragraph. Definitions cannot be underlined. -/
def underlined (level : Nat) (lines : List Line) (line : Line) : Step :=
  match proseBlocks (.heading level) (.heading true) line.stop lines with
  | (definitions, []) => { blocks := definitions, leaf := .prose [line] }
  | (definitions, words) => { blocks := definitions ++ words }

/-! ## Code -/

/-- The value of code between fences: lines without the columns that the first fence was
indented by. -/
def fencedValue (indent : Nat) (lines : List Line) : String :=
  textOfLines (lines.map fun line => line.drop (min indent line.indent))

/-- The words after a fence: the language, and what follows it. -/
def fenceInfo (cells : List Cell) : Option String × Option String :=
  let cells := Table.trim cells
  let language := cells.takeWhile (!·.isBlank)
  let rest := (cells.drop language.length).dropWhile Cell.isBlank
  (if language.isEmpty then none else some (plainText language),
    if rest.isEmpty then none else some (plainText rest))

/-- Code between fences as a block. -/
def fencedBlock (fence : Fence) (indent : Nat) (start stop : Point) (lines : List Line) : Block :=
  let (language, info) := fenceInfo fence.info
  .leaf (.codeBlock language info (fencedValue indent lines.reverse)) ⟨start, stop⟩

/-- Indented code as a block. -/
def indentedBlock (start : Point) (lines : List Line) : List Block :=
  match lines with
  | [] => []
  | last :: _ =>
    [.leaf (.codeBlock none none (textOfLines lines.reverse)) ⟨start, last.stop⟩]

/-- HTML as a block. -/
def htmlBlock (start stop : Point) (lines : List Line) : Block :=
  .leaf (.html (textOfLines lines.reverse)) ⟨start, stop⟩

/-! ## Markup -/

/-- The tags and expressions up to the end of a line that holds nothing else. -/
def markupBlocks (dialect : Dialect) : Nat → Scanner (List Block)
  | 0 => throw .refused
  | fuel + 1 => do
    let _ ← Scanner.takeWhile Cell.isBlank
    match ← Scanner.peek? with
    | none => return []
    | some cell =>
      if cell.isEnding then return []
      else if cell.char = '<' then
        let tag ← Scanner.tag dialect cell
        return .tag tag :: (← markupBlocks dialect fuel)
      else if cell.char = '\x7b' then
        let found ← Scanner.expression dialect .content cell
        let block :=
          .leaf (.expression true found.code found.start) ⟨cell.start, found.stop⟩
        return block :: (← markupBlocks dialect fuel)
      else throw .refused

/-- The markup that lines hold. -/
def scanMarkup (dialect : Dialect) (lines : List Line) : Except Halt (List Block) := do
  let cells := cellsOfLines lines
  let (blocks, _) ← (markupBlocks dialect (cells.length + 1)).run cells
  return blocks

/-- The step of lines that turned out not to be markup, given the lines of the paragraph
before them. -/
def refuse (held lines : List Line) : Step :=
  match lines with
  | [] => { leaf := .prose held }
  | first :: rest => { leaf := .prose (first :: held), again := rest }

/-- Tries lines as markup. -/
def tryMarkup (dialect : Dialect) (held lines : List Line) : Except Problem Step :=
  match scanMarkup dialect lines with
  | .ok blocks => .ok { blocks := paragraph held ++ blocks }
  | .error .refused => .ok (refuse held lines)
  | .error (.ended _) => .ok { leaf := .markup held lines }
  | .error (.failed problem) => .error problem

/-! ## Module code -/

/-- Whether a line starts module code. -/
def startsCode (line : Line) : Bool :=
  let chars := (line.cells.take 7).map Cell.char
  line.start.column = 1 && (chars = "import ".toList || chars = "export ".toList)

/-- Module code up to a point as a block, or what is missing of it. -/
def judgeCode (dialect : Dialect) (start : Point) (value : String) (stop : Point) :
    Except Problem (Block ⊕ Fault) :=
  match dialect.judgeModule value with
  | .accepted => .ok (.inl (.leaf (.moduleCode value) ⟨start, stop⟩))
  | .unfinished fault => .ok (.inr fault)
  | .rejected fault offset => .error ⟨fault, start.within offset value.toList⟩

/-- Where module code starts. -/
def codeStart (last : Line) (before : List Line) : Point :=
  (before.getLast?.getD last).start

/-- Module code up to a blank line or the end of the text. -/
def judgeLines (dialect : Dialect) (last : Line) (before : List Line) :
    Except Problem (Block ⊕ Fault) :=
  judgeCode dialect (codeStart last before) (textOfLines (last :: before).reverse) last.stop

/-- Module code at the end of the text. A last line that has an ending is judged without it
first. -/
def lastCode (dialect : Dialect) (last : Line) (before : List Line) : Except Problem Block := do
  let whole := textOfLines (last :: before).reverse ++ last.ending
  match ← judgeLines dialect last before with
  | .inl block => return block
  | .inr _ =>
    match ← judgeCode dialect (codeStart last before) whole last.after with
    | .inl block => return block
    | .inr fault => throw ⟨fault, last.after⟩

/-! ## Lines -/

/-- What a line starts that is not blank, given the lines of the paragraph before it. `none` says
that it is part of a paragraph. -/
def start? (dialect : Dialect) (held : List Line) (line : Line) : Except Problem (Option Step) :=
  let indent := line.indent
  let cells := line.cells.drop indent
  let interrupts := !held.isEmpty
  let blocks := paragraph held
  if dialect.tooDeep indent then
    if interrupts then .ok none
    else .ok (some { leaf := .indented line.start [line.drop tabSize] [] })
  else
    match fence? cells with
    | some fence => .ok (some { blocks, leaf := .fenced fence indent (startOf cells line.stop) [] })
    | none =>
    match if dialect.markup then none else html? interrupts cells with
    | some ends =>
      if ends.within cells then
        .ok (some { blocks := blocks ++ [htmlBlock line.start line.stop [line]] })
      else .ok (some { blocks, leaf := .html ends line.start [line] })
    | none =>
    if dialect.markup && cells.head?.any fun cell => cell.char = '<' || cell.char = '\x7b' then
      some <$> tryMarkup dialect held [line]
    else
    match heading? cells with
    | some (level, content) =>
      let stop := content.getLast?.elim line.stop Cell.stop
      let words := .prose (.heading level) (.heading false) line.span content stop
      .ok (some { blocks := blocks ++ [words] })
    | none =>
    if dialect.markup && !interrupts && startsCode line then .ok (some { leaf := .code line [] })
    else if isThematicBreak cells then
      .ok (some { blocks := blocks ++ [.leaf .thematicBreak line.span] })
    else .ok none

/-- What a line makes of an open paragraph. -/
def proseStep (dialect : Dialect) (held : List Line) (line : Line) : Except Problem Step := do
  if line.isBlank then return { blocks := paragraph held }
  let cells := line.cells.drop line.indent
  let underline := if dialect.tooDeep line.indent || held.isEmpty then none else underline? cells
  if let some level := underline then return underlined level held line
  if let some step ← start? dialect held line then return step
  match held with
  | header :: before =>
    match if dialect.extended then Table.start? header line else none with
    | some columns =>
      return { blocks := paragraph before
               leaf := .table columns ⟨header.start, line.stop⟩ [Table.row header] }
    | none => return { leaf := .prose (line :: held) }
  | [] => return { leaf := .prose [line] }

/-- What a line makes of the open block. -/
def step (dialect : Dialect) (leaf : Leaf) (line : Line) : Except Problem Step :=
  match leaf with
  | .prose held => proseStep dialect held line
  | .fenced fence indent start lines =>
    let deep := line.indent
    if !dialect.tooDeep deep && fence.closedBy (line.cells.drop deep) then
      .ok { blocks := [fencedBlock fence indent start line.stop lines] }
    else .ok { leaf := .fenced fence indent start (line :: lines) }
  | .indented start lines blanks =>
    if line.isBlank then
      .ok { leaf := .indented start lines (line.drop tabSize :: blanks) }
    else if line.indent ≥ tabSize then
      .ok { leaf := .indented start (line.drop tabSize :: blanks ++ lines) [] }
    else .ok { blocks := indentedBlock start lines, again := [line] }
  | .html ends start lines =>
    if ends = .blank && line.isBlank then
      let stop := lines.head?.elim start Line.stop
      .ok { blocks := [htmlBlock start stop lines] }
    else if ends.within line.cells then
      .ok { blocks := [htmlBlock start line.stop (line :: lines)] }
    else .ok { leaf := .html ends start (line :: lines) }
  | .markup held lines => tryMarkup dialect held (lines ++ [line])
  | .code last before =>
    if line.isBlank then do
      match ← judgeLines dialect last before with
      | .inl block => return { blocks := [block] }
      | .inr _ => return { leaf := .code line (last :: before) }
    else .ok { leaf := .code line (last :: before) }
  | .table columns span rows => do
    let finished := [.group (.table columns) .table span rows]
    if line.isBlank then return { blocks := finished }
    match ← start? dialect [] line with
    | some step => return { step with blocks := finished ++ step.blocks }
    | none => return { leaf := .table columns ⟨span.start, line.stop⟩ (rows ++ [Table.row line]) }

/-- Reads lines one after the other. -/
def feed (dialect : Dialect) : Nat → Leaf → List Line → Except Problem (List Block × Leaf)
  | 0, leaf, _ => .ok ([], leaf)
  | _, leaf, [] => .ok ([], leaf)
  | fuel + 1, leaf, line :: rest => do
    let step ← leaf.step dialect line
    let (more, leaf) ← feed dialect fuel step.leaf (step.again ++ rest)
    return (step.blocks ++ more, leaf)

/-- The lines that may have to be read again. -/
def held : Leaf → List Line
  | .markup _ lines => lines
  | _ => []

/-- Steps that reading some lines can take: each refusal uses up one of them. -/
def fuel (leaf : Leaf) (lines : List Line) : Nat :=
  (leaf.held.length + lines.length + 1) * (leaf.held.length + lines.length + 2)

/-- Reads a line. -/
def read (dialect : Dialect) (leaf : Leaf) (line : Line) : Except Problem (List Block × Leaf) :=
  feed dialect (leaf.fuel [line]) leaf [line]

/-- Whether the open block goes on until it is closed, endings included. -/
def isOpenEnded : Leaf → Bool
  | .fenced .. => true
  | .html (.text _) .. => true
  | _ => false

/-- Ends the open block where no line goes on with it. Blocks that would go on end at a
point. -/
def finish (dialect : Dialect) (stop : Point) : Nat → Leaf → Except Problem (List Block)
  | _, .prose held => .ok (paragraph held)
  | _, .fenced fence indent start lines => .ok [fencedBlock fence indent start stop lines]
  | _, .indented start lines _ => .ok (indentedBlock start lines)
  | _, .html ends start lines =>
    let last := if ends = .blank then lines.head?.elim start Line.stop else stop
    .ok [htmlBlock start last lines]
  | _, .code last before => (fun block => [block]) <$> lastCode dialect last before
  | _, .table columns span rows => .ok [.group (.table columns) .table span rows]
  | 0, .markup .. => .ok []
  | rounds + 1, .markup held lines =>
    match scanMarkup dialect lines with
    | .error (.ended (some fault)) => .error ⟨fault, stop⟩
    | .error (.failed problem) => .error problem
    | _ => do
      let step := refuse held lines
      let (blocks, leaf) ← feed dialect (fuel step.leaf step.again) step.leaf step.again
      return blocks ++ (← finish dialect stop rounds leaf)

/-- Ends the open block at a point. -/
def close (dialect : Dialect) (stop : Point) (leaf : Leaf) : Except Problem (List Block) :=
  finish dialect stop (leaf.held.length + 1) leaf

/-- Whether a line that has left its container still goes on with a paragraph. -/
def keepsLazily (dialect : Dialect) (leaf : Leaf) (line : Line) : Bool :=
  leaf.isParagraph && !line.isBlank &&
    match leaf with
    | .prose held =>
      match start? dialect held line with
      | .ok none => true
      | .ok (some { leaf := .prose (first :: _), .. }) => first = line
      | _ => false
    | _ => false

/-- A paragraph with one more line. -/
def addLine (leaf : Leaf) (line : Line) : Leaf :=
  match leaf with
  | .prose held => .prose (line :: held)
  | other => other

end Leaf

end PagePrelude.Markdown
