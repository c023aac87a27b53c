import PagePrelude.Markdown.Emphasis
import PagePrelude.Markdown.LinkPart

/-!
# Words of a document

The words of a paragraph, a heading or a cell of a table become pieces. Code, tags,
expressions and references are taken first; brackets are matched as they close, and runs
of marks where the words around them end.
-/

namespace PagePrelude.Markdown

/-- An opening bracket with the phrases after it. -/
structure Bracket where
  image : Bool
  cells : List Cell
  /-- Whether a link can start here. -/
  active : Bool := true
  /-- The cells after the bracket. -/
  label : List Cell
  /-- The phrases outside of the bracket, newest first. -/
  outside : List Phrase
  deriving Repr

/-- What is known of some words up to a cell. -/
structure Prose where
  /-- The open brackets, innermost first. -/
  brackets : List Bracket := []
  /-- The phrases since the last open bracket, newest first. -/
  phrases : List Phrase := []
  /-- The character before. -/
  before : Option Char := none
  deriving Repr

namespace Prose

/-- Adds pieces that end with a character. -/
def add (prose : Prose) (made : List Piece) (last : Option Char) : Prose :=
  { prose with phrases := .pieces made :: prose.phrases, before := last }

/-- Adds cells as text. -/
def addText (prose : Prose) (cells : List Cell) : Prose :=
  match cells.getLast? with
  | some last => prose.add (Piece.ofCells cells) last.char
  | none => prose

/-- Adds a run of marks before a character. -/
def addRun (prose : Prose) (cells : List Cell) (after : Option Char) : Prose :=
  { prose with
    phrases := .ofRun cells prose.before after :: prose.phrases
    before := cells.getLast?.map Cell.char }

/-- Opens a bracket of which the cells are known. -/
def openBracket (prose : Prose) (image : Bool) (cells rest : List Cell) : Prose :=
  { brackets := { image, cells, label := rest, outside := prose.phrases } :: prose.brackets
    phrases := []
    before := some '[' }

/-! ## Code -/

/-- The cells up to a run of just so many backticks, and the cells after it. `taken` are the
cells passed, newest first. -/
def untilBackticks (size : Nat) : Nat → List Cell → List Cell → Option (List Cell × List Cell)
  | 0, _, _ => none
  | _, _, [] => none
  | fuel + 1, taken, cell :: rest =>
    if cell.char = '`' then
      let run := (cell :: rest).takeWhile (·.char = '`')
      let after := (cell :: rest).drop run.length
      if run.length = size then some (taken.reverse, after)
      else untilBackticks size fuel (run.reverse ++ taken) after
    else untilBackticks size fuel (cell :: taken) rest

/-- The value of code: line endings count as spaces, and one space at either end is padding. -/
def codeValue (cells : List Cell) : String :=
  let unbroken := cells.map fun cell => if cell.isEnding then { cell with text := " " } else cell
  let chars := (textOf unbroken).toList
  let padded := chars.length > 1 && chars.head? = some ' ' && chars.getLast? = some ' ' &&
    chars.any (· != ' ')
  String.ofList (if padded then (chars.drop 1).dropLast else chars)

/-! ## Links -/

/-- The destination and the title in parentheses, and the cells after them. -/
def resource? (cells : List Cell) : Option (String × Option String × List Cell) := do
  let opening ← cells.head?
  if opening.char != '(' then none
  let inside := LinkPart.skipGap (cells.drop 1)
  let first ← inside.head?
  if first.char = ')' then return ("", none, inside.drop 1)
  let (destination, rest) ← LinkPart.destination? inside
  let (title, rest) :=
    match LinkPart.titleAfter? rest with
    | some (title, rest) => (some title, rest)
    | none => (none, rest)
  let rest := LinkPart.skipGap rest
  let closing ← rest.head?
  if closing.char = ')' then return (destination, title, rest.drop 1) else none

/-- The definition that a label names. -/
def define? (definitions : List Definition) (label : List Cell) : Option Definition :=
  definitions.find? (·.key = LinkPart.labelKey label)

/-- What a closed bracket refers to, given what is in it and the cells after it. -/
def target? (definitions : List Definition) (label rest : List Cell) :
    Option (String × Option String × List Cell) :=
  (resource? rest).or <|
    match LinkPart.label? rest with
    | some (other, rest) =>
      (define? definitions other).map fun found => (found.destination, found.title, rest)
    | none =>
      let empty := (rest.take 2).map Cell.char = ['[', ']']
      (define? definitions label).map fun found =>
        (found.destination, found.title, if empty then rest.drop 2 else rest)

/-- The phrases of a bracket that stands for itself, newest first. -/
def literal (bracket : Bracket) (phrases : List Phrase) : List Phrase :=
  phrases ++ .pieces (Piece.ofCells bracket.cells) :: bracket.outside

/-- A link or an image between two points. -/
def linked (bracket : Bracket) (phrases : List Phrase) (destination : String)
    (title : Option String) (stop : Point) : List Piece :=
  let start := startOf bracket.cells stop
  let inside := Phrase.toPieces phrases.reverse
  if bracket.image then
    [.whole (.image (String.join (inside.map Piece.words)) destination title) ⟨start, stop⟩]
  else .enter (.link destination title) .link start :: inside ++ [.leave stop]

/-- Closes the last bracket, where the text ends at a point. The result has the cells after the
link, or after the bracket if there is none. -/
def closeBracket (prose : Prose) (definitions : List Definition) (stop : Point) (cell : Cell)
    (rest : List Cell) : Prose × List Cell :=
  match prose.brackets with
  | [] => (prose.addText [cell], rest)
  | bracket :: brackets =>
    let label := bracket.label.take (bracket.label.length - rest.length - 1)
    match if bracket.active then target? definitions label rest else none with
    | some (destination, title, after) =>
      let made := linked bracket prose.phrases destination title (startOf after stop)
      let brackets :=
        if bracket.image then brackets
        else brackets.map fun outer => { outer with active := outer.active && outer.image }
      ({ brackets, phrases := .pieces made :: bracket.outside, before := some ')' }, after)
    | none =>
      ({ prose with brackets, phrases := literal bracket prose.phrases }.addText [cell], rest)

/-- The phrases of words at their end, in order. Open brackets stand for themselves. -/
def finish (prose : Prose) : List Phrase :=
  (prose.brackets.foldl (fun phrases bracket => literal bracket phrases) prose.phrases).reverse

/-! ## Cells -/

/-- Characters that may be more than text. -/
def isSpecial (cell : Cell) : Bool :=
  cell.isGap || ['\\', '&', '`', '<', '\x7b', '!', '[', ']', '*', '_', '~'].contains cell.char

/-- Adds a line ending after blanks. Two spaces before it break the line. -/
def addEnding (prose : Prose) (blanks : List Cell) (ending : Cell) : Prose :=
  if blanks.length ≥ 2 && blanks.all (·.char = ' ') then
    prose.add [.whole .lineBreak ⟨startOf blanks ending.start, ending.start⟩] '\n'
  else prose.add [Piece.text "\n" ⟨ending.start, ending.start⟩] '\n'

/-- Reads markup at a cell, where the text ends at a point. Without markup the cell is text. -/
def readMarkup (dialect : Dialect) (stop : Point) (prose : Prose) (cell : Cell)
    (cells : List Cell) : Except Problem (Prose × List Cell) :=
  let scan : Scanner Piece :=
    if cell.char = '<' then Piece.tag false <$> Scanner.tag dialect cell
    else do
      let found ← Scanner.expression dialect .content cell
      return .whole (.expression false found.code found.start) ⟨cell.start, found.stop⟩
  match scan.run cells with
  | .ok (piece, rest) => .ok (prose.add [piece] '>', rest)
  | .error (.failed problem) => .error problem
  | .error (.ended (some fault)) => .error ⟨fault, stop⟩
  | .error _ => .ok (prose.addText [cell], cells.drop 1)

/-- Reads what starts at a cell. -/
def readOne (dialect : Dialect) (definitions : List Definition) (stop : Point) (prose : Prose)
    (cell : Cell) (rest : List Cell) : Except Problem (Prose × List Cell) :=
  let run (p : Cell → Bool) :=
    let taken := (cell :: rest).takeWhile p
    (taken, (cell :: rest).drop taken.length)
  if cell.isEnding then .ok (prose.addEnding [] cell, rest.dropWhile Cell.isBlank)
  else if cell.isBlank then
    let (blanks, after) := run Cell.isBlank
    match after with
    | [] => .ok (prose, [])
    | next :: more =>
      if next.isEnding then .ok (prose.addEnding blanks next, more.dropWhile Cell.isBlank)
      else .ok (prose.addText blanks, after)
  else
  match cell.char with
  | '\\' =>
    match rest with
    | next :: more =>
      if next.isEnding then
        let made := [.whole .lineBreak ⟨cell.start, next.start⟩]
        .ok (prose.add made '\n', more.dropWhile Cell.isBlank)
      else if Text.isAsciiPunctuation next.char then .ok (prose.addText [next], more)
      else .ok (prose.addText [cell], rest)
    | [] => .ok (prose.addText [cell], rest)
  | '&' =>
    match referenceAfter? (rest.map Cell.char) with
    | some (text, taken) =>
      let after := rest.drop taken
      .ok (prose.add [Piece.text text ⟨cell.start, startOf after stop⟩] ';', after)
    | none => .ok (prose.addText [cell], rest)
  | '`' =>
    let (marks, after) := run (·.char = '`')
    match untilBackticks marks.length (after.length + 1) [] after with
    | some (code, after) =>
      let span := ⟨cell.start, startOf after stop⟩
      .ok (prose.add [.whole (.inlineCode (codeValue code)) span] '`', after)
    | none => .ok (prose.addText marks, after)
  | '<' | '\x7b' =>
    if dialect.markup then readMarkup dialect stop prose cell (cell :: rest)
    else .ok (prose.addText [cell], rest)
  | '!' =>
    match rest with
    | next :: more =>
      if next.char = '[' then .ok (prose.openBracket true [cell, next] more, more)
      else .ok (prose.addText [cell], rest)
    | [] => .ok (prose.addText [cell], rest)
  | '[' => .ok (prose.openBracket false [cell] rest, rest)
  | ']' => .ok (prose.closeBracket definitions stop cell rest)
  | '*' | '_' | '~' =>
    let (marks, after) := run (·.char = cell.char)
    if cell.char != '~' || dialect.extended then
      .ok (prose.addRun marks (after.head?.map Cell.char), after)
    else .ok (prose.addText marks, after)
  | _ =>
    let (words, after) := run (!isSpecial ·)
    if words.isEmpty then .ok (prose.addText [cell], rest) else .ok (prose.addText words, after)

/-- Reads cells up to their end. -/
def readAll (dialect : Dialect) (definitions : List Definition) (stop : Point) :
    Nat → Prose → List Cell → Except Problem Prose
  | 0, prose, _ => .ok prose
  | _, prose, [] => .ok prose
  | fuel + 1, prose, cell :: rest => do
    let (prose, rest) ← prose.readOne dialect definitions stop cell rest
    readAll dialect definitions stop fuel prose rest

/-- The pieces of words that end at a point. -/
def pieces (dialect : Dialect) (definitions : List Definition) (stop : Point)
    (cells : List Cell) : Except Problem (List Piece) := do
  let words := cells.dropWhile Cell.isBlank
  let prose ← readAll dialect definitions stop (words.length + 1) {} words
  return Phrase.toPieces prose.finish

end Prose

end PagePrelude.Markdown
