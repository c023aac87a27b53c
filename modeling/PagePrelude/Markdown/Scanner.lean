import PagePrelude.Markdown.Dialect
import PagePrelude.Markdown.Line

/-!
# Scanning markup

Tags and expressions are read from cells. A scan can stop for three reasons: what is
there is no markup, the text ends, or the text is faulty. Where the text ends, what that
means is decided by whether more lines follow.
-/

namespace PagePrelude.Markdown

/-- Why a scan stops early. -/
inductive Halt where
  /-- There is no markup here. -/
  | refused
  /-- The text ends: a fault, or no markup, unless more of it follows. -/
  | ended (fault : Option Fault)
  | failed (problem : Problem)
  deriving DecidableEq, Repr

/-- Scanners consume cells. -/
abbrev Scanner := StateT (List Cell) (Except Halt)

namespace Scanner

/-- The next cell, if the text goes on. -/
def peek? : Scanner (Option Cell) :=
  return (← get).head?

/-- Moves past some cells. -/
def skip (count : Nat) : Scanner Unit :=
  modify (·.drop count)

/-- Consumes cells as long as they are of a kind. -/
def takeWhile (p : Cell → Bool) : Scanner (List Cell) :=
  modifyGet fun cells => (cells.takeWhile p, cells.dropWhile p)

/-- Fails at a cell. -/
def failAt {α : Type} (fault : Fault) (cell : Cell) : Scanner α :=
  throw (.failed ⟨fault, cell.start⟩)

/-- Refuses a character of a tag. -/
def unexpected {α : Type} (place : TagPlace) (cell : Cell) : Scanner α :=
  failAt (.unexpected place cell.char) cell

/-- The next cell that is not blank. A tag cannot end before it. -/
def visible : Scanner Cell := do
  let _ ← takeWhile fun cell => Text.isSpace cell.char
  match ← peek? with
  | some cell => return cell
  | none => throw (.ended none)

/-- The cells up to the brace that closes an expression, the brace, and the cells after it.
`depth` braces were opened inside. -/
def untilBrace : Nat → List Cell → Option (List Cell × Cell × List Cell)
  | _, [] => none
  | depth, cell :: rest =>
    match depth, cell.char with
    | 0, '\x7d' => some ([], cell, rest)
    | depth + 1, '\x7d' => (untilBrace depth rest).map (Prod.map (cell :: ·) id)
    | depth, '\x7b' => (untilBrace (depth + 1) rest).map (Prod.map (cell :: ·) id)
    | depth, _ => (untilBrace depth rest).map (Prod.map (cell :: ·) id)

/-- The cell of a text that an offset within it falls on. -/
def cellAt? (offset : Nat) : List Cell → Option Cell
  | [] => none
  | cell :: rest =>
    let size := cell.text.utf8ByteSize
    if offset < size then some cell else cellAt? (offset - size) rest

/-- The shortest code before a closing brace that is accepted. `taken` is the code before the
cells, newest first; `last` is what stood against code tried before. -/
def judged (verdict : String → Verdict) (last : Fault) (taken : List Cell) :
    List Cell → Except Halt (List Cell × Cell × List Cell)
  | [] => throw (.ended (some last))
  | cell :: rest =>
    if cell.char = '\x7d' then
      match verdict (textOf taken.reverse) with
      | .accepted => return (taken.reverse, cell, rest)
      | .unfinished fault => judged verdict fault (cell :: taken) rest
      | .rejected fault offset =>
        let place := (cellAt? offset taken.reverse).getD cell
        throw (.failed ⟨fault, place.start⟩)
    else judged verdict last (cell :: taken) rest

/-- Code between braces. -/
structure Expression where
  code : String
  /-- Where the code starts. -/
  start : Point
  /-- Where the expression ends, after its brace. -/
  stop : Point
  deriving DecidableEq, Repr

/-- An expression, of which the opening brace is next. -/
def expression (dialect : Dialect) (role : ExpressionRole) (brace : Cell) :
    Scanner Expression := do
  skip 1
  let cells ← get
  let (code, close, rest) ←
    match dialect.judge with
    | some judge => judged (judge role) .openExpression [] cells
    | none =>
      match untilBrace 0 cells with
      | some found => pure found
      | none => throw (.ended (some .openExpression))
  set rest
  return ⟨textOf code, brace.stop, close.stop⟩

end Scanner

end PagePrelude.Markdown
