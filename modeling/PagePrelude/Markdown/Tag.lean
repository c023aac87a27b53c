import PagePrelude.Markdown.Reference
import PagePrelude.Markdown.Scanner
import PagePrelude.Text.WordPart
import PagePrelude.Text.WordStart

/-!
# Tags

A tag opens an element, closes one, or is an element of its own. Which tags belong
together is decided later; here each is read by itself.
-/

namespace PagePrelude.Markdown

/-- A tag of markup. -/
structure Tag where
  /-- The name; fragments have none. -/
  name : Option String
  closing : Bool
  selfClosing : Bool
  attributes : List Attribute
  span : Span
  /-- What a closing tag has and must not have. -/
  excess : Option Problem
  deriving DecidableEq, Repr

/-- A tag without its attributes. -/
def Tag.text (tag : Tag) : String :=
  (if tag.closing then "</" else "<") ++ tag.name.getD "" ++ ">"

namespace Scanner

/-- Whether a character can start a name. -/
def startsName (cell : Cell) : Bool :=
  cell.char = '$' || cell.char = '_' || Text.isWordStart cell.char

/-- Whether a character can go on a name. -/
def continuesName (cell : Cell) : Bool :=
  cell.char = '$' || cell.char = '-' || Text.isWordPart cell.char ||
    cell.char = '\u200c' || cell.char = '\u200d'

/-- A name whose first character was seen. It ends at a blank, at one of some characters, or
with the text. -/
def name (ends : List Char) (inside : TagPlace) : Scanner String := do
  let word ← takeWhile continuesName
  match ← peek? with
  | some cell =>
    if !Text.isSpace cell.char && !ends.contains cell.char then unexpected inside cell
  | none => pure ()
  return textOf word

/-- A further part of a name after a mark, with the mark. -/
def namePart (mark : Char) (ends : List Char) (first inside : TagPlace) : Scanner String := do
  skip 1
  let cell ← visible
  if !startsName cell then unexpected first cell
  let part ← name ends inside
  return mark.toString ++ part

/-- The members after the first part of a name. -/
def members : Nat → String → Scanner String
  | 0, text => return text
  | fuel + 1, text => do
    let cell ← visible
    if cell.char = '.' then
      let part ← namePart '.' ['.', '/', '>', '\x7b'] .beforeMember .inMember
      members fuel (text ++ part)
    else return text

/-- Whether a tag can go on with attributes, or end. -/
def endsName (cell : Cell) : Bool :=
  cell.char = '/' || cell.char = '>' || cell.char = '\x7b' || startsName cell

/-- The name of an element, whose first character was seen. -/
def elementName : Scanner String := do
  let first ← name ['.', '/', ':', '>', '\x7b'] .inName
  let cell ← visible
  if cell.char = '.' then
    let text ← members (← get).length first
    let cell ← visible
    if endsName cell then return text else unexpected .afterMember cell
  else if cell.char = ':' then
    let part ← namePart ':' ['/', '>', '\x7b'] .beforeLocal .inLocal
    let cell ← visible
    if endsName cell then return first ++ part else unexpected .afterLocal cell
  else if endsName cell then return first
  else unexpected .afterName cell

/-- The name of an attribute, whose first character was seen, and the cell after it. -/
def attributeName : Scanner (String × Cell) := do
  let first ← name ['/', ':', '=', '>', '\x7b'] .inAttribute
  let cell ← visible
  if cell.char = ':' then
    let part ← namePart ':' ['/', '=', '>', '\x7b'] .beforeAttributeLocal .inAttributeLocal
    let cell ← visible
    if endsName cell || cell.char = '=' then return (first ++ part, cell)
    else unexpected .afterAttributeLocal cell
  else if endsName cell || cell.char = '=' then return (first, cell)
  else unexpected .afterAttribute cell

/-- The text up to a closing quote. The text may end in a line that has only begun. -/
def quoted (quote : Cell) : Scanner String := do
  skip 1
  let text ← takeWhile (·.char != quote.char)
  match ← peek? with
  | some _ =>
    skip 1
    return String.ofList (resolveReferences 0 (textOf text).toList)
  | none =>
    let begun := (text.reverse.dropWhile Cell.isBlank).head?.any Cell.isEnding
    throw (.ended (if begun then none else some (.openQuote quote.char)))

/-- The value of an attribute, if it has one. -/
def attributeValue (dialect : Dialect) (next : Cell) : Scanner AttributeValue := do
  if next.char != '=' then return .absent
  skip 1
  let cell ← visible
  if cell.char = '"' || cell.char = '\'' then return .literal (← quoted cell)
  else if cell.char = '\x7b' then
    let found ← expression dialect .value cell
    return .expression found.code found.start
  else unexpected .beforeValue cell

/-- An attribute, of which the first cell is known. -/
def tagAttribute (dialect : Dialect) (cell : Cell) : Scanner Attribute := do
  if cell.char = '\x7b' then
    let found ← expression dialect .attributes cell
    return .spread found.code found.start
  else
    let (text, next) ← attributeName
    return .property text (← attributeValue dialect next)

/-- The attributes of a tag up to its end, with the cell that each starts at. -/
def tagAttributes (dialect : Dialect) : Nat → Scanner (List (Attribute × Cell) × Cell)
  | 0 => throw .refused
  | fuel + 1 => do
    let cell ← visible
    if cell.char = '/' || cell.char = '>' then return ([], cell)
    if cell.char = '\x7b' || startsName cell then
      let first ← tagAttribute dialect cell
      let (more, last) ← tagAttributes dialect fuel
      return ((first, cell) :: more, last)
    else unexpected .beforeAttribute cell

/-- The end of a tag: whether it closes itself, and the bracket. -/
def tagEnd (cell : Cell) : Scanner (Bool × Cell) := do
  if cell.char = '/' then
    skip 1
    let bracket ← visible
    if bracket.char = '>' then return (true, bracket) else unexpected .afterSlash bracket
  else return (false, cell)

/-- The name of a tag, if it has one. -/
def tagName (closing : Bool) : Scanner (Option String) := do
  let cell ← visible
  if cell.char = '>' then return none
  else if startsName cell then some <$> elementName
  else unexpected (.beforeName closing) cell

/-- What a closing tag has and must not have: attributes, or a slash at its end. -/
def excess? (closing selfClosing : Bool) (attributes : List (Attribute × Cell)) (last : Cell) :
    Option Problem :=
  if !closing then none
  else match attributes with
    | (_, cell) :: _ => some ⟨.closingAttribute, cell.start⟩
    | [] => if selfClosing then some ⟨.closingSlash, last.start⟩ else none

/-- A tag from its name on. -/
def tagRest (dialect : Dialect) (bracket : Cell) (closing : Bool) : Scanner Tag := do
  let name ← tagName closing
  let (attributes, last) ← tagAttributes dialect ((← get).length + 1)
  let (selfClosing, close) ← tagEnd last
  skip 1
  return {
    name, closing, selfClosing
    attributes := attributes.map Prod.fst
    span := ⟨bracket.start, close.stop⟩
    excess := excess? closing selfClosing attributes last }

/-- A tag, of which the opening bracket is next. -/
def tag (dialect : Dialect) (bracket : Cell) : Scanner Tag := do
  skip 1
  match ← peek? with
  | none => throw .refused
  | some cell =>
    if Text.isSpace cell.char then throw .refused
    else if cell.char = '/' then
      skip 1
      tagRest dialect bracket true
    else tagRest dialect bracket false

end Scanner

end PagePrelude.Markdown
