import PagePrelude.Module.Problem
import PagePrelude.Node

/-!
# Faults of a document

Only markup can be faulty: any text is a document without it. A fault names the place
in the grammar where reading stopped; its words and its rule are told here alone.
-/

namespace PagePrelude.Markdown

/-- Places in a tag where a character can be wrong. -/
inductive TagPlace where
  | beforeName (closing : Bool)
  | inName
  | afterName
  | beforeMember
  | inMember
  | afterMember
  | beforeLocal
  | inLocal
  | afterLocal
  | beforeAttribute
  | inAttribute
  | afterAttribute
  | beforeAttributeLocal
  | inAttributeLocal
  | afterAttributeLocal
  | beforeValue
  | afterSlash
  deriving DecidableEq, Repr

namespace TagPlace

/-- The words for a place. -/
def text : TagPlace → String
  | beforeName _ => "before name"
  | inName => "in name"
  | afterName => "after name"
  | beforeMember => "before member name"
  | inMember => "in member name"
  | afterMember => "after member name"
  | beforeLocal => "before local name"
  | inLocal => "in local name"
  | afterLocal => "after local name"
  | beforeAttribute => "before attribute name"
  | inAttribute => "in attribute name"
  | afterAttribute => "after attribute name"
  | beforeAttributeLocal => "before local attribute name"
  | inAttributeLocal => "in local attribute name"
  | afterAttributeLocal => "after local attribute name"
  | beforeValue => "before attribute value"
  | afterSlash => "after self-closing slash"


/-- What can stand at a place, with a remark on a character that is found there often. -/
def expected (place : TagPlace) (found : Char) : String :=
  let remark (c : Char) (words : String) := if found = c then " (note: " ++ words ++ ")" else ""
  let toLink := "to create a link in MDX, use `[text](url)`"
  let start := "a character that can start a name, such as a letter, `$`, or `_`"
  let ofAttribute := "a character that can start an attribute name, such as a letter, `$`, or `_`; "
  let more := "a name character such as letters, digits, `$`, or `_`; "
  let moreOfAttribute := "an attribute name character such as letters, digits, `$`, or `_`; "
  let tagRest := "whitespace before attributes; or the end of the tag"
  let valueRest := "`=` to initialize a value; or the end of the tag"
  match place with
  | beforeName false =>
    start ++ remark '!' "to create a comment in MDX, use `\x7b/* text */\x7d`"
  | beforeName true => start
  | inName | inMember => more ++ tagRest ++ remark '@' toLink
  | inLocal => more ++ tagRest
  | beforeLocal => start ++ remark '/' toLink
  | afterName | beforeMember | afterMember | afterLocal | beforeAttribute => ofAttribute ++ tagRest
  | inAttribute | inAttributeLocal => moreOfAttribute ++ "`=` to initialize a value; " ++ tagRest
  | afterAttribute | beforeAttributeLocal | afterAttributeLocal => ofAttribute ++ valueRest
  | beforeValue =>
    "a character that can start an attribute value, such as `\"`, `'`, or `\x7b`" ++
      remark '<'
        "to use an element or fragment as a prop value in MDX, use `\x7b<element />\x7d`"
  | afterSlash =>
    "`>` to end the tag" ++
      (if found = '*' || found = '/' then
        " (note: JS comments in JSX tags are not supported in MDX)" else "")

end TagPlace

/-- The constructs that tags must not cross. -/
inductive Construct where
  | blockQuote
  | listItem
  | list (ordered : Bool)
  | footnoteDefinition
  | paragraph
  | heading (underlined : Bool)
  | table
  | tableRow
  | tableCell
  | emphasis
  | strong
  | strikethrough
  | link
  | image
  deriving DecidableEq, Repr

/-- The name of a construct. -/
def Construct.text : Construct → String
  | blockQuote => "BlockQuote"
  | listItem => "ListItem"
  | list true => "ListOrdered"
  | list false => "ListUnordered"
  | footnoteDefinition => "GfmFootnoteDefinition"
  | paragraph => "Paragraph"
  | heading false => "HeadingAtx"
  | heading true => "HeadingSetext"
  | table => "GfmTable"
  | tableRow => "GfmTableRow"
  | tableCell => "GfmTableCell"
  | emphasis => "Emphasis"
  | strong => "Strong"
  | strikethrough => "GfmStrikethrough"
  | link => "Link"
  | image => "Image"

/-- What is wrong with code in a document that is compiled. -/
inductive CodeFault where
  /-- More code is needed. -/
  | unfinished
  /-- The code cannot go on as it does. -/
  | unexpected
  /-- Something follows an expression. -/
  | trailing
  /-- A statement stands outside of functions. -/
  | statement
  /-- Attributes are given by something other than a spread. -/
  | notSpread
  /-- Attributes are given by a spread and something else. -/
  | moreThanSpread
  deriving DecidableEq, Repr

/-- The words for what is wrong with code of a kind. -/
def CodeFault.text (kind : String) : CodeFault → String
  | unfinished => "Could not parse " ++ kind ++ " with swc: Unexpected eof"
  | unexpected => "Could not parse " ++ kind ++ " with swc: Expression expected"
  | trailing => "Could not parse " ++ kind ++ " with swc: Unexpected content after expression"
  | statement => "Unexpected statement in code: only import/exports are supported"
  | notSpread =>
    "Unexpected prop in spread (such as `\x7bx\x7d`): " ++
      "only a spread is supported (such as `\x7b...x\x7d`)"
  | moreThanSpread =>
    "Unexpected extra content in spread (such as `\x7b...x,y\x7d`): " ++
      "only a single spread is supported (such as `\x7b...x\x7d`)"

/-- What is wrong with a document. -/
inductive Fault where
  /-- A character cannot stand where it is in a tag. -/
  | unexpected (place : TagPlace) (found : Char)
  /-- The value of an attribute is not closed. -/
  | openQuote (quote : Char)
  /-- The braces of an expression are not closed. -/
  | openExpression
  /-- A tag or an expression goes on in a line that leaves its container. -/
  | lazyLine (inExpression : Bool)
  /-- A closing tag closes nothing. -/
  | strayClosing
  /-- A closing tag has an attribute. -/
  | closingAttribute
  /-- A closing tag closes itself. -/
  | closingSlash
  /-- A tag closes another element than the last one opened. -/
  | wrongClosing (tag opened : String) (start : Point)
  /-- An element is not closed before its surroundings end. -/
  | notClosed (opened : String) (start : Point) (inside : Option Construct)
  /-- An element is not closed before the construct that holds its closing tag starts. -/
  | closedWithin (tag : String) (construct : Construct) (start : Point)
  /-- Module code cannot be read. -/
  | moduleCode (problem : Module.Problem)
  /-- Code cannot be compiled. -/
  | compiledCode (expression : Bool) (fault : CodeFault)
  /-- A document has more than one layout. -/
  | secondLayout (start stop : Point)
  deriving DecidableEq, Repr

namespace Fault

/-- A character and its number. -/
def shown (c : Char) : String :=
  let digits := (Nat.toDigits 16 c.toNat).map Char.toUpper
  let number := "U+" ++ String.ofList (List.replicate (4 - digits.length) '0' ++ digits)
  if c = '`' then "`` ` `` (" ++ number ++ ")"
  else if '!' ≤ c ∧ c ≤ '~' then "`" ++ c.toString ++ "` (" ++ number ++ ")"
  else number

/-- A point in words. -/
def pointText (point : Point) : String :=
  toString point.line ++ ":" ++ toString point.column

/-- The words for a fault. -/
def text : Fault → String
  | unexpected place found =>
    "Unexpected character " ++ shown found ++ " " ++ place.text ++ ", expected " ++
      place.expected found
  | openQuote quote =>
    "Unexpected end of file in attribute value, expected a corresponding closing quote " ++
      shown quote
  | openExpression =>
    "Unexpected end of file in expression, expected a corresponding closing brace for `\x7b`"
  | lazyLine inExpression =>
    "Unexpected lazy line in " ++ (if inExpression then "expression" else "jsx") ++
      " in container, expected line to be prefixed with `>` " ++
        "when in a block quote, whitespace when in a list, etc"
  | strayClosing => "Unexpected closing slash `/` in tag, expected an open tag first"
  | closingAttribute => "Unexpected attribute in closing tag, expected the end of the tag"
  | closingSlash =>
    "Unexpected self-closing slash `/` in closing tag, expected the end of the tag"
  | wrongClosing tag opened start =>
    "Unexpected closing tag `" ++ tag ++ "`, expected corresponding closing tag for `" ++
      opened ++ "` (" ++ pointText start ++ ")"
  | notClosed opened start inside =>
    "Expected a closing tag for `" ++ opened ++ "` (" ++ pointText start ++ ")" ++
      match inside with
      | some construct => " before the end of `" ++ construct.text ++ "`"
      | none => ""
  | closedWithin tag construct start =>
    "Expected the closing tag `" ++ tag ++ "` either before the start of `" ++
      construct.text ++ "` (" ++ pointText start ++ "), or another opening tag after that start"
  | moduleCode problem => "Could not parse import/exports: " ++ problem.text
  | compiledCode expression fault => fault.text (if expression then "expression" else "esm")
  | secondLayout start stop =>
    "Cannot specify multiple layouts (previous: " ++ pointText start ++ "-" ++ pointText stop ++ ")"

/-- The rule that a fault breaks, with the name of the grammar that has it. -/
def rule : Fault → String
  | unexpected .. => "markdown-rs:unexpected-character"
  | openQuote _ | openExpression => "markdown-rs:unexpected-eof"
  | lazyLine _ => "markdown-rs:unexpected-lazy"
  | strayClosing => "markdown-rs:unexpected-closing-slash"
  | closingAttribute => "markdown-rs:unexpected-attribute"
  | closingSlash => "markdown-rs:unexpected-self-closing-slash"
  | wrongClosing .. | notClosed .. | closedWithin .. => "markdown-rs:end-tag-mismatch"
  | moduleCode _ => "autoimport:esm"
  | compiledCode .. => "mdxjs-rs:swc"
  | secondLayout .. => "mdxjs-rs:double-layout"

end Fault

/-- A fault at a point of a document. -/
structure Problem where
  fault : Fault
  place : Point
  deriving DecidableEq, Repr

end PagePrelude.Markdown
