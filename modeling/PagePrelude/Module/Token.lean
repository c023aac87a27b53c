import PagePrelude.Module.Problem

/-!
# Tokens of module code

Words are not told apart here: whether a word is a keyword depends on where it
stands. Numbers and regular expressions keep their spelling, strings also the text
that they denote.
-/

namespace PagePrelude.Module

/-- How a number is written. -/
inductive NumberForm where
  | decimal
  | float
  | exponential
  | hex
  | octal
  | binary
  /-- An integer of unbounded size. -/
  | big
  deriving DecidableEq, Repr

/-- The place of a piece of text in a template. -/
inductive TemplatePart where
  /-- The template has no substitution. -/
  | whole
  /-- The piece before the first substitution. -/
  | head
  | middle
  | tail
  deriving DecidableEq, Repr

/-- What a token is. -/
inductive Lexeme where
  | endOfText
  /-- Characters that form no token. -/
  | unknown
  /-- An identifier or a keyword; `escaped` if it is not spelled literally. -/
  | word (name : String) (escaped : Bool)
  | privateName (name : String)
  | number (form : NumberForm) (spelling : String)
  /-- A string; `sound` unless it denotes half a surrogate pair. -/
  | string (value spelling : String) (sound : Bool)
  /-- A piece of a template; `sound` unless an escape in it denotes nothing. -/
  | template (part : TemplatePart) (spelling : String) (sound : Bool)
  | regex (spelling : String)
  | mark (text : String)
  /-- Text between the tags of markup. -/
  | markupText (text : String)
  deriving DecidableEq, Repr

/-- Whether a token at the end of a text may go on in a longer one: there is none, it could not be
read, or it is text between tags. -/
def Lexeme.isOpen : Lexeme → Bool
  | .endOfText | .unknown | .markupText _ => true
  | _ => false

/-- A token and its place. -/
structure Token where
  lexeme : Lexeme
  start : Nat
  stop : Nat
  /-- Whether a line break comes before it. -/
  afterBreak : Bool
  deriving DecidableEq, Repr

/-- Words that name nothing but themselves. -/
def strictKeywords : List String := [
  "break", "case", "catch", "class", "const", "continue", "debugger", "default", "delete", "do",
  "else", "enum", "export", "extends", "false", "finally", "for", "function", "if", "import",
  "in", "instanceof", "new", "null", "return", "super", "switch", "this", "throw", "true", "try",
  "typeof", "var", "void", "while", "with"]

/-- Words with a meaning of their own in some places that can be names in others. -/
def looseKeywords : List String := [
  "abstract", "accessor", "any", "as", "assert", "asserts", "async", "await", "bigint", "boolean",
  "constructor", "declare", "defer", "from", "get", "global", "implements", "infer", "interface",
  "intrinsic", "is", "keyof", "let", "meta", "module", "namespace", "never", "number", "object",
  "of", "out", "override", "package", "private", "protected", "public", "readonly", "require",
  "satisfies", "set", "source", "static", "string", "symbol", "target", "type", "undefined",
  "unique", "unknown", "using", "yield"]

/-- Whether a word is never a name. -/
def isStrictKeyword (word : String) : Bool :=
  strictKeywords.contains word

/-- The name of a way to write numbers. -/
def NumberForm.shown : NumberForm → String
  | decimal => "decimal"
  | float => "float"
  | exponential => "exponential"
  | hex => "hex"
  | octal => "octal"
  | binary => "binary"
  | big => "bigint"

/-- How a message names a token. -/
def Lexeme.shown : Lexeme → String
  | endOfText => "EOF"
  | unknown => "Unknown"
  | word name _ =>
    if isStrictKeyword name || looseKeywords.contains name then name else "Identifier"
  | privateName _ => "#identifier"
  | number form _ => form.shown
  | string .. => "string"
  | template .whole .. => "$\x7b\x7d"
  | template .head .. => "$\x7b"
  | template .middle .. => "$\x7bexpr\x7d"
  | template .tail .. => "\x7d"
  | regex _ => "/regexp/"
  | mark text => text
  | markupText _ => "jsx"

end PagePrelude.Module
