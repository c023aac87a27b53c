import PagePrelude.Markdown.Line
import PagePrelude.Markdown.Reference
import PagePrelude.Text.Punctuation

/-!
# Parts of links

Links, images and definitions are made of labels, destinations and titles. Each reader
here takes a part off the front of some cells.
-/

namespace PagePrelude.Markdown

/-- A text with its escapes and references resolved. `skip` characters belong to a reference
that was. -/
def plainChars (skip : Nat) : List Char → List Char
  | [] => []
  | c :: rest =>
    match skip, c, rest with
    | skip + 1, _, rest => plainChars skip rest
    | 0, '\\', next :: more =>
      if Text.isAsciiPunctuation next then next :: plainChars 0 more
      else '\\' :: plainChars 0 (next :: more)
    | 0, '&', rest =>
      match referenceAfter? rest with
      | some (text, taken) => text.toList ++ plainChars taken rest
      | none => '&' :: plainChars 0 rest
    | 0, c, rest => c :: plainChars 0 rest

/-- The text that cells stand for. -/
def plainText (cells : List Cell) : String :=
  String.ofList (plainChars 0 (textOf cells).toList)

namespace LinkPart

/-- The cells up to a closing mark, without it. A mark after a backslash does not count, and
some characters must not be there. -/
def untilMark (close : Char) (never : List Char) : List Cell → Option (List Cell × List Cell)
  | [] => none
  | escape :: next :: rest =>
    if escape.char = '\\' && Text.isAsciiPunctuation next.char then
      (untilMark close never rest).map (Prod.map (escape :: next :: ·) id)
    else if escape.char = close then some ([], next :: rest)
    else if never.contains escape.char then none
    else (untilMark close never (next :: rest)).map (Prod.map (escape :: ·) id)
  | [cell] => if cell.char = close then some ([], []) else none

/-- The longest label. -/
def maxLabel : Nat := 999

/-- A label in brackets. -/
def label? : List Cell → Option (List Cell × List Cell)
  | opening :: rest =>
    if opening.char = '[' then
      match untilMark ']' ['['] rest with
      | some (label, more) =>
        if label.length ≤ maxLabel && !label.all Cell.isGap then some (label, more) else none
      | none => none
    else none
  | [] => none

/-- Words without the blanks around and between them. `word` is the one being read, newest
first. -/
def wordsOf (word : List Char) : List Cell → List (List Char)
  | [] => if word.isEmpty then [] else [word.reverse]
  | cell :: rest =>
    if cell.isGap then
      if word.isEmpty then wordsOf [] rest else word.reverse :: wordsOf [] rest
    else wordsOf (cell.char :: word) rest

/-- What labels that name the same definition have in common. -/
def labelKey (label : List Cell) : String :=
  " ".intercalate ((wordsOf [] label).map fun word => String.ofList (word.map Char.toLower))

/-- A destination without brackets, in which parentheses must match. -/
def bareDestination (depth : Nat) : List Cell → List Cell × List Cell
  | [] => ([], [])
  | [cell] =>
    if cell.isGap || cell.char.toNat < 32 || (cell.char = ')' && depth = 0) then ([], [cell])
    else ([cell], [])
  | cell :: next :: rest =>
    let keep (result : List Cell × List Cell) := (cell :: result.1, result.2)
    if cell.isGap || cell.char.toNat < 32 || cell.char.toNat = 127 then ([], cell :: next :: rest)
    else if cell.char = '\\' && Text.isAsciiPunctuation next.char then
      let (more, left) := bareDestination depth rest
      (cell :: next :: more, left)
    else if cell.char = '(' then keep (bareDestination (depth + 1) (next :: rest))
    else if cell.char = ')' then
      match depth with
      | 0 => ([], cell :: next :: rest)
      | depth + 1 => keep (bareDestination depth (next :: rest))
    else keep (bareDestination depth (next :: rest))

/-- A destination. -/
def destination? : List Cell → Option (String × List Cell)
  | opening :: rest =>
    if opening.char = '<' then
      (untilMark '>' ['<', '\n'] rest).map (Prod.map plainText id)
    else
      let (taken, left) := bareDestination 0 (opening :: rest)
      if taken.isEmpty then none else some (plainText taken, left)
  | [] => none

/-- A title in quotes or parentheses. -/
def title? : List Cell → Option (String × List Cell)
  | opening :: rest =>
    if opening.char = '"' || opening.char = '\'' then
      (untilMark opening.char [] rest).map (Prod.map plainText id)
    else if opening.char = '(' then (untilMark ')' ['('] rest).map (Prod.map plainText id)
    else none
  | [] => none

/-- Cells after blanks and at most one line ending. -/
def skipGap (cells : List Cell) : List Cell :=
  let rest := cells.dropWhile Cell.isBlank
  match rest with
  | cell :: more => if cell.isEnding then more.dropWhile Cell.isBlank else rest
  | [] => []

/-- A gap and a title, if they are there. -/
def titleAfter? (cells : List Cell) : Option (String × List Cell) :=
  if cells.head?.any Cell.isGap then title? (skipGap cells) else none

end LinkPart

/-- What a label stands for. -/
structure Definition where
  key : String
  label : String
  destination : String
  title : Option String
  span : Span
  deriving DecidableEq, Repr

namespace Definition

/-- Blanks up to the end of a line: the cells after it, and where it ends. -/
def lineEnd? (stop : Point) (cells : List Cell) : Option (List Cell × Point) :=
  match cells.dropWhile Cell.isBlank with
  | [] => some ([], stop)
  | cell :: rest => if cell.isEnding then some (rest, cell.start) else none

/-- The definition that some cells start with, and the cells after it. The cells end at a
point. -/
def take? (stop : Point) (cells : List Cell) : Option (Definition × List Cell) := do
  let (label, rest) ← LinkPart.label? (cells.dropWhile Cell.isBlank)
  let colon ← rest.head?
  if colon.char != ':' then none
  let (destination, rest) ← LinkPart.destination? (LinkPart.skipGap (rest.drop 1))
  let make (title : Option String) (last : Point) : Definition :=
    { key := LinkPart.labelKey label, label := textOf label, destination, title
      span := ⟨startOf cells stop, last⟩ }
  let titled := do
    let (title, rest) ← LinkPart.titleAfter? rest
    let (rest, last) ← lineEnd? stop rest
    some (make (some title) last, rest)
  titled.or do
    let (rest, last) ← lineEnd? stop rest
    some (make none last, rest)

/-- The definitions that some cells start with, and the cells after them. -/
def takeAll (stop : Point) : Nat → List Cell → List Definition × List Cell
  | 0, cells => ([], cells)
  | fuel + 1, cells =>
    match take? stop cells with
    | some (definition, rest) =>
      let (more, rest) := takeAll stop fuel rest
      (definition :: more, rest)
    | none => ([], cells)

end Definition

end PagePrelude.Markdown
