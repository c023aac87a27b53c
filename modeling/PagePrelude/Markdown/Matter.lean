import PagePrelude.Markdown.Leaf

/-!
# Data blocks

A document can start with data between two equal fences: YAML between dashes, TOML
between plus signs. Without the second fence there is no data block.
-/

namespace PagePrelude.Markdown

/-- A data block. -/
structure Matter where
  language : MatterLanguage
  /-- The lines between the fences. -/
  value : String
  span : Span
  deriving DecidableEq, Repr

namespace Matter

/-- The language that a fence announces. -/
def fence? (line : Line) : Option MatterLanguage :=
  match visibleChars line.cells with
  | ['-', '-', '-'] => some .yaml
  | ['+', '+', '+'] => some .toml
  | _ => none

/-- The lines before the fence that closes a data block, the fence, and the lines after it. -/
def untilFence (language : MatterLanguage) : List Line → Option (List Line × Line × List Line)
  | [] => none
  | line :: rest =>
    if fence? line = some language then some ([], line, rest)
    else (untilFence language rest).map (Prod.map (line :: ·) id)

/-- The data block that a document starts with, and the lines after it. -/
def take? : List Line → Option (Matter × List Line)
  | [] => none
  | first :: lines => do
    let language ← fence? first
    let (inside, last, rest) ← untilFence language lines
    return (⟨language, Leaf.textOfLines inside, first.start, last.stop⟩, rest)

/-- A data block as a block of its document. -/
def block (found : Matter) : Block :=
  .leaf (.matter found.language found.value) found.span

end Matter

end PagePrelude.Markdown
