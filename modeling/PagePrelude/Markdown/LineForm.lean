import PagePrelude.Markdown.Line

/-!
# Forms of lines

What a single line says by itself, once the spaces and tabs at its start are gone:
whether it is a break or a heading, or opens code or HTML.
-/

namespace PagePrelude.Markdown

/-- A line as far as its form counts: characters without blanks at the end. -/
def visibleChars (cells : List Cell) : List Char :=
  (trimEnd cells).map Cell.char

/-- Whether cells are a break between topics. -/
def isThematicBreak (cells : List Cell) : Bool :=
  let marks := (cells.filter (!·.isBlank)).map Cell.char
  marks.length ≥ 3 && ['*', '-', '_'].any fun mark => marks.all (· = mark)

/-- The content of a heading without the marks that may close it. -/
def dropClosingMarks (cells : List Cell) : List Cell :=
  let open_ := trimEnd cells
  let rest := (open_.reverse.dropWhile (·.char = '#')).reverse
  match rest.getLast? with
  | none => []
  | some last =>
    if rest.length < open_.length && last.isBlank then trimEnd rest else open_

/-- The level and the content of a heading with marks in front. -/
def heading? (cells : List Cell) : Option (Nat × List Cell) :=
  let marks := cells.takeWhile (·.char = '#')
  let rest := cells.drop marks.length
  if 1 ≤ marks.length && marks.length ≤ 6 && rest.head?.all Cell.isBlank then
    some (marks.length, dropClosingMarks (rest.dropWhile Cell.isBlank))
  else none

/-- The level of the heading that a line underlines. -/
def underline? (cells : List Cell) : Option Nat :=
  match visibleChars cells with
  | '=' :: rest => if rest.all (· = '=') then some 1 else none
  | '-' :: rest => if rest.all (· = '-') then some 2 else none
  | _ => none

/-- A line that opens or closes a block of code. -/
structure Fence where
  mark : Char
  size : Nat
  /-- What follows the marks. -/
  info : List Cell
  deriving DecidableEq, Repr

/-- The fence that a line starts with. -/
def fence? (cells : List Cell) : Option Fence :=
  match cells with
  | [] => none
  | first :: _ =>
    let marks := cells.takeWhile (·.char = first.char)
    let info := cells.drop marks.length
    if marks.length < 3 then none
    else if first.char = '~' then some ⟨'~', marks.length, info⟩
    else if first.char = '`' && info.all (·.char != '`') then some ⟨'`', marks.length, info⟩
    else none

/-- Whether a line closes the block of code that a fence opened. -/
def Fence.closedBy (fence : Fence) (cells : List Cell) : Bool :=
  let marks := cells.takeWhile (·.char = fence.mark)
  marks.length ≥ fence.size && (cells.drop marks.length).all Cell.isBlank

/-- How a block of HTML ends. -/
inductive HtmlEnd where
  /-- With the line that holds one of some texts. -/
  | text (ends : List String)
  /-- Before a blank line. -/
  | blank
  deriving DecidableEq, Repr

/-- Elements whose tags open a block of HTML wherever they start a line. -/
def blockElements : List String := [
  "address", "article", "aside", "base", "basefont", "blockquote", "body", "caption", "center",
  "col", "colgroup", "dd", "details", "dialog", "dir", "div", "dl", "dt", "fieldset",
  "figcaption", "figure", "footer", "form", "frame", "frameset", "h1", "h2", "h3", "h4", "h5",
  "h6", "head", "header", "hr", "html", "iframe", "legend", "li", "link", "main", "menu",
  "menuitem", "nav", "noframes", "ol", "optgroup", "option", "p", "param", "search", "section",
  "summary", "table", "tbody", "td", "tfoot", "th", "thead", "title", "tr", "track", "ul"]

/-- Elements whose content is left alone. -/
def rawElements : List String := ["pre", "script", "style", "textarea"]

/-- Whether some characters hold a text, in upper or lower case. -/
def holds (text : List Char) : List Char → Bool
  | [] => text.isEmpty
  | c :: rest => text.isPrefixOf (c.toLower :: rest.map Char.toLower) || holds text rest

namespace Html

/-- Spaces and tabs. -/
def isBlank (c : Char) : Bool :=
  c = ' ' || c = '\t'

/-- Whether a tag ends here and nothing follows it. -/
def endsLine : List Char → Bool
  | '>' :: rest => rest.all isBlank
  | '/' :: '>' :: rest => rest.all isBlank
  | _ => false

/-- What follows the value of an attribute. -/
def afterValue? : List Char → Option (List Char)
  | '"' :: rest =>
    let more := rest.dropWhile (· != '"')
    if more.isEmpty then none else some (more.drop 1)
  | '\'' :: rest =>
    let more := rest.dropWhile (· != '\'')
    if more.isEmpty then none else some (more.drop 1)
  | chars =>
    let ends := ['"', '\'', '/', '<', '=', '>', '`', ' ', '\t']
    let more := chars.dropWhile (!ends.contains ·)
    if more.length < chars.length then some more else none

/-- What follows an attribute. -/
def afterAttribute? (chars : List Char) : Option (List Char) :=
  let more := chars.dropWhile fun c => c.isAlphanum || [':', '_', '.', '-'].contains c
  match more.dropWhile isBlank with
  | '=' :: value => afterValue? (value.dropWhile isBlank)
  | _ => some more

/-- Whether attributes and the end of a tag are all that is left of a line. -/
def attributesEndLine : Nat → List Char → Bool
  | 0, _ => false
  | fuel + 1, chars =>
    let rest := chars.dropWhile isBlank
    if endsLine rest then true
    else if rest.length < chars.length &&
        rest.head?.any fun c => c.isAlpha || c = ':' || c = '_' then
      match afterAttribute? rest with
      | some more => attributesEndLine fuel more
      | none => false
    else false

/-- Whether a line holds nothing but one tag. -/
def isLoneTag (chars : List Char) : Bool :=
  let isNameChar (c : Char) := c.isAlphanum || c = '-'
  match chars with
  | '<' :: '/' :: c :: rest =>
    c.isAlpha &&
      match (rest.dropWhile isNameChar).dropWhile isBlank with
      | '>' :: more => more.all isBlank
      | _ => false
  | '<' :: c :: rest => c.isAlpha && attributesEndLine chars.length (rest.dropWhile isNameChar)
  | _ => false

/-- How the block ends that a named tag opens, if it opens one wherever it stands. -/
def namedEnd? (closing : Bool) (chars : List Char) : Option HtmlEnd :=
  let name := chars.takeWhile fun c => c.isAlphanum || c = '-'
  let rest := chars.drop name.length
  let word := String.ofList (name.map Char.toLower)
  let ends := rest.isEmpty || rest.head?.any isBlank || rest.head? = some '>'
  if !closing && rawElements.contains word && ends then
    some (.text (rawElements.map fun name => "</" ++ name ++ ">"))
  else if blockElements.contains word && (ends || rest.take 2 = ['/', '>']) then some .blank
  else none

end Html

/-- How the block of HTML ends that a line opens. A lone tag of any name opens one where no
paragraph goes on. -/
def html? (interrupts : Bool) (cells : List Cell) : Option HtmlEnd :=
  let chars := cells.map Cell.char
  let named :=
    match chars with
    | '<' :: '!' :: '-' :: '-' :: _ => some (.text ["-->"])
    | '<' :: '?' :: _ => some (.text ["?>"])
    | '<' :: '!' :: c :: rest =>
      if c.isAlpha then some (.text [">"])
      else if "[CDATA[".toList.isPrefixOf (c :: rest) then some (.text ["]]>"])
      else none
    | '<' :: '/' :: rest => Html.namedEnd? true rest
    | '<' :: rest => Html.namedEnd? false rest
    | _ => none
  match named with
  | some ends => some ends
  | none => if !interrupts && Html.isLoneTag chars then some .blank else none

/-- Whether a block of HTML ends with a line. -/
def HtmlEnd.within (ends : HtmlEnd) (cells : List Cell) : Bool :=
  match ends with
  | .blank => false
  | .text texts =>
    let chars := cells.map Cell.char
    texts.any fun text => holds text.toList chars

end PagePrelude.Markdown
