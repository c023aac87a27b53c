import PagePrelude.Markdown.Piece
import PagePrelude.Text.Punctuation

/-!
# Emphasis

Runs of marks around words emphasise them. A run that can close is matched with the last
run before it that can open; what is left of either may match others, and marks that
match nothing stand for themselves.
-/

namespace PagePrelude.Markdown

/-- A part of a line of words. -/
inductive Phrase where
  | pieces (made : List Piece)
  /-- A run of equal marks. -/
  | run (cells : List Cell) (opens closes : Bool)
  deriving DecidableEq, Repr

namespace Phrase

/-- How a character next to a run counts. -/
inductive Side where
  | blank
  | punctuation
  | word
  deriving DecidableEq, Repr

/-- How a character counts next to a run. The ends of a text count as blank. -/
def Side.ofChar? : Option Char → Side
  | none => .blank
  | some c =>
    if Text.isSpace c then .blank else if Text.isPunctuation c then .punctuation else .word

/-- A run of marks between two characters. -/
def ofRun (cells : List Cell) (before after : Option Char) : Phrase :=
  let left := Side.ofChar? before
  let right := Side.ofChar? after
  let opens := right = .word || (right = .punctuation && left != .word)
  let closes := left = .word || (left = .punctuation && right != .word)
  if cells.head?.any (·.char = '_') then
    .run cells (opens && (left != .word || !closes)) (closes && (right != .word || !opens))
  else .run cells opens closes

/-- The pieces of phrases, where marks stand for themselves. -/
def flatten (phrases : List Phrase) : List Piece :=
  phrases.flatMap fun
    | pieces made => made
    | run cells _ _ => Piece.ofCells cells

/-- Whether two runs can match. -/
def matched (opening closing : List Cell) (both : Bool) : Bool :=
  match opening.head?, closing.head? with
  | some first, some last =>
    first.char = last.char &&
      if first.char = '~' then opening.length = closing.length && closing.length ≤ 2
      else
        !(both && closing.length % 3 != 0 && (opening.length + closing.length) % 3 = 0)
  | _, _ => false

/-- The last run that opens for a closing one: the phrases after it, the run, and the phrases
before it, newest first. `after` are the phrases that the search has passed. -/
def opener? (closing : List Cell) (opensToo : Bool) (after : List Phrase) :
    List Phrase → Option (List Phrase × List Cell × Bool × List Phrase)
  | [] => none
  | run cells true closes :: before =>
    if matched cells closing (closes || opensToo) then some (after, cells, closes, before)
    else opener? closing opensToo (run cells true closes :: after) before
  | phrase :: before => opener? closing opensToo (phrase :: after) before

/-- How many marks two matching runs use up, and what they make. -/
def strength (opening closing : List Cell) : Nat × NodeKind × Construct :=
  if opening.head?.any (·.char = '~') then (closing.length, .strikethrough, .strikethrough)
  else if opening.length > 1 && closing.length > 1 then (2, .strong, .strong)
  else (1, .emphasis, .emphasis)

/-- A run, unless it is used up. -/
def remainder (cells : List Cell) (opens closes : Bool) : List Phrase :=
  if cells.isEmpty then [] else [run cells opens closes]

/-- Matches runs. `before` are the phrases that were passed, newest first. -/
def resolve : Nat → List Phrase → List Phrase → List Piece
  | 0, before, rest => flatten (before.reverse ++ rest)
  | _, before, [] => flatten before.reverse
  | fuel + 1, before, run closing opens true :: rest =>
    match opener? closing opens [] before with
    | none => resolve fuel (run closing opens true :: before) rest
    | some (inside, opening, closes, older) =>
      let (size, kind, construct) := strength opening closing
      let kept := opening.take (opening.length - size)
      let used := opening.drop kept.length
      let start := startOf used (startOf closing default)
      let stop := ((closing.take size).getLast?.map Cell.stop).getD start
      let made := pieces (.enter kind construct start :: flatten inside ++ [.leave stop])
      resolve fuel (made :: remainder kept true closes ++ older)
        (remainder (closing.drop size) opens true ++ rest)
  | fuel + 1, before, phrase :: rest => resolve fuel (phrase :: before) rest

/-- The marks in phrases. -/
def marks : List Phrase → Nat
  | [] => 0
  | run cells _ _ :: phrases => cells.length + marks phrases
  | pieces _ :: phrases => marks phrases

/-- The pieces of phrases, with emphasis. -/
def toPieces (phrases : List Phrase) : List Piece :=
  resolve (phrases.length + marks phrases + 1) [] phrases

end Phrase

end PagePrelude.Markdown
